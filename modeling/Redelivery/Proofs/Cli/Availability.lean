import Redelivery.Cli.Tool
import Redelivery.Proofs.Ledger.File
import Redelivery.Proofs.Resend.Requests

/-!
# Three answers about one message

Whether the user may send a message again is told by the service when it is
asked, by the tool over the ledger file, and by what becomes of the request
itself.  The tool and the question look at the same record and the same counter,
so they agree, and both foretell the request but for the records that they
overlook.
-/

namespace Redelivery

namespace Cli

variable {f : LedgerFile} {config : ResendConfig} {now : UInt64}
  {id : MessageId} {d : Disk}
  {l : Ledger} {r : Record}

/-- The tool, asked about a message, says in its last line that the user may
send it again. -/
def Offers (f : LedgerFile) (config : ResendConfig) (now : UInt64)
    (id : MessageId) (d : Disk) :
    Prop :=
  ∃ before, ((perform f config now (.show id)).run d).1 =
    .ok (before ++ "  Manual resend available: yes\n")

theorem run_loadThere (hload : (f.load.run d).1 = .ok (some l)) :
    ((loadThere f now).run d).1 = .ok (.restored (some l) now) := by
  obtain ⟨bytes, hread⟩ := LedgerFile.readFile_of_load hload
  have hlook := Disk.look_of_readFile hread
  have hthere : (Settings.firstThere [f.path]).run d = (some f.path, d) := by
    simp [Settings.firstThere, Program.run, hlook]
  rw [loadThere, Program.run_bind, hthere]
  simp only [LedgerFile.loadLive, Program.run_bind, hload]
  rfl

theorem run_show (hload : (f.load.run d).1 = .ok (some l)) :
    ((perform f config now (.show id)).run d).1 =
      match (l.prune now).get? id with
      | none => .error (.noRecord id)
      | some r => .ok (showReport config (l.prune now) now id r) := by
  rw [perform, Program.run_bind, run_loadThere hload]
  simp only [Ledger.restored]
  cases (l.prune now).get? id <;> rfl

theorem lines_ends {parts : List String} {last : String}
    (hlast : parts.getLast? = some last) :
    ∃ before, lines parts = before ++ (last ++ "\n") := by
  obtain ⟨init, rfl⟩ := List.getLast?_eq_some_iff.1 hlast
  exact ⟨lines init, by simp [lines]⟩

theorem showReport_ends (config : ResendConfig) (l : Ledger) (now : UInt64)
    (id : MessageId) (r : Record) :
    ∃ before, showReport config l now id r = before ++
      ("  Manual resend available: " ++
        (if manualResendShown config l now id r then "yes" else "no")
        ++ "\n") :=
  lines_ends rfl

theorem yes_ne_no (before before' : String) :
    before ++ "  Manual resend available: yes\n" ≠
      before' ++ "  Manual resend available: no\n" := by
  intro hsame
  have hback := congrArg (fun text => text.toList.reverse) hsame
  simp at hback

theorem showReport_offers_iff : (∃ before, showReport config l now id r =
    before ++ "  Manual resend available: yes\n") ↔
      manualResendShown config l now id r = true := by
  obtain ⟨before, hends⟩ := showReport_ends config l now id r
  rw [hends]
  cases manualResendShown config l now id r with
  | true => exact iff_of_true ⟨before, rfl⟩ rfl
  | false =>
    refine iff_of_false ?_ Bool.false_ne_true
    rintro ⟨before', hsame⟩
    exact yes_ne_no before' before hsame.symm

/-- The tool and a service over the same ledger look at the same record and the
same counter. -/
theorem offers_iff_canManuallyResend {s : Service}
    (hload : (f.load.run d).1 = .ok (some l))
    (hledger : s.ledger = .restored (some l) s.calendar) :
    Offers f s.config s.calendar id d ↔ s.canManuallyResend id = true := by
  have hledger : s.ledger = l.prune s.calendar := hledger
  rw [Offers, run_show hload, Service.canManuallyResend, Service.record?,
    Ledger.find?, ← hledger]
  cases hget : s.ledger.get? id with
  | none => simp
  | some r =>
    have hlive : r.isExpired s.calendar = false := by
      rw [hledger, Ledger.get?_prune] at hget
      exact (Ledger.find?_eq_some_iff.1 hget).2
    simp only [Except.ok.injEq, showReport_offers_iff, manualResendShown, hlive]
    simp [Option.filter, hlive, Service.attempts?]

/-! ## A service over a file -/

/-- A node over a ledger file begins to run over the ledger that the file
holds. -/
theorem kept_of_build {settings : Settings} {around s : Service} {d' : Disk}
    (hbuilt : (settings.build around).run d = (.ok (.file f, s), d')) :
    ∃ kept, (f.load.run d').1 = .ok kept ∧
      s = ({ around with config := settings.resend, kept := kept } :
        Service).reload.step
        .start := by
  rw [Settings.build, Program.run_bind] at hbuilt
  cases hopened : ((OpenStore.ofSettings settings).run d).1 with
  | error cause =>
    rw [hopened] at hbuilt
    cases hbuilt
  | ok store =>
    rw [hopened] at hbuilt
    simp only [Program.run_bind] at hbuilt
    cases hloaded :
      (store.load.run ((OpenStore.ofSettings settings).run d).2).1 with
    | error cause =>
      rw [hloaded] at hbuilt
      cases hbuilt
    | ok kept =>
      rw [hloaded] at hbuilt
      cases hbuilt
      rw [OpenStore.load, LedgerFile.run_load, ← OpenStore.load]
      exact ⟨kept, hloaded, rfl⟩

/-- After a node has begun to run over a ledger file, the tool over that file
offers just what the node would grant, but for the records that are
overlooked. -/
theorem offers_iff_of_build {settings : Settings} {around s : Service}
    {d' : Disk} (hsource : around.source.Arises)
    (hbuilt : (settings.build around).run d = (.ok (.file f, s), d'))
    (hload : (f.load.run d').1 = .ok (some l)) (id : MessageId) :
    Offers f settings.resend around.calendar id d' ↔
      (∃ r, s.Accepts id r) ∨ s.Overlooked id := by
  obtain ⟨kept, hkept, hs⟩ := kept_of_build hbuilt
  cases hload.symm.trans hkept
  have hfresh :
      ({ around with config := settings.resend, kept := some l } :
        Service).reload.Fresh :=
    .of_reload hsource
  have hnumbered := Service.numbered_run hfresh [.start]
  have hsaving := Service.saving_run hfresh.saving [.start]
  rw [Service.run_cons, Service.run_nil, ← hs] at hnumbered hsaving
  have hbegun := hs.trans (Service.step_start rfl rfl)
  obtain ⟨hconfig, hledger, _, _, _, hrunning, _, _, _, hcalendar⟩ :=
    Service.begun_frame
      ({ around with config := settings.resend, kept := some l } :
        Service).reload
  rw [← hbegun] at hconfig hledger hrunning hcalendar
  have hconfig : s.config = settings.resend := hconfig
  have hcalendar : s.calendar = around.calendar := hcalendar
  rw [← hconfig, ← hcalendar, offers_iff_canManuallyResend hload]
  · exact Service.canManuallyResend_iff hnumbered hsaving hrunning
  · rw [hcalendar]
    exact hledger

end Cli

namespace Service

/-- In every run, a request of the user is granted or refused.  The question
whether the user may ask foretells which, and so does the tool over a file that
holds the ledger of the service, but for the records that they overlook: both
offer these, and requests for them are refused. -/
theorem granted_as_foretold {start s : Service} (hstart : start.Fresh)
    {events : List Event} (hs : s = start.run events)
    (hrunning : s.shutDown = false) (id : MessageId) :
    ((∃ r, s.Accepts id r) ∨ s.Refuses id) ∧
    (s.canManuallyResend id = true ↔ (∃ r, s.Accepts id r) ∨ s.Overlooked id) ∧
    (∀ (f : LedgerFile) (d : Disk) (l : Ledger),
      (f.load.run d).1 = .ok (some l) →
      s.ledger = .restored (some l) s.calendar →
      (Cli.Offers f s.config s.calendar id d ↔
        (∃ r, s.Accepts id r) ∨ s.Overlooked id)) ∧
    (s.Overlooked id → s.Refuses id) := by
  have hnumbered : s.Numbered := hs ▸ numbered_run hstart events
  have hsaving : s.Saving := hs ▸ saving_run hstart.saving events
  refine ⟨accepts_or_refuses hnumbered hsaving hrunning id,
    canManuallyResend_iff hnumbered hsaving hrunning, ?_, ?_⟩
  · intro f d l hload hledger
    rw [Cli.offers_iff_canManuallyResend hload hledger]
    exact canManuallyResend_iff hnumbered hsaving hrunning
  · exact fun hoverlooked => hoverlooked.refuses hnumbered hrunning

def oneMessage (counters : List (MessageId × UInt32)) : Ledger :=
  ⟨.ofList [(⟨"m1"⟩, .waiting ⟨"m1"⟩)], .ofList counters⟩

def oneFile : LedgerFile :=
  ⟨⟨"/m"⟩, by decide +kernel⟩

def diskWith (l : Ledger) : Disk :=
  ⟨.ofList [(["m"], .file l.encode)], []⟩

/-- A service over a ledger with one message that was counted three times. -/
def thrice : Service :=
  .new .standard (.restored (some (oneMessage [(⟨"m1"⟩, 3)])) 5) default 5

theorem granted_as_foretold_thrice : (∃ r, thrice.Accepts ⟨"m1"⟩ r) ∧
    Cli.Offers oneFile .standard 5 ⟨"m1"⟩
      (diskWith (oneMessage [(⟨"m1"⟩, 3)])) := by
  obtain ⟨_, hquestion, htool, _⟩ :=
    granted_as_foretold (fresh_new _ _ _ _ _)
      (show thrice = thrice.run [] from rfl) rfl ⟨"m1"⟩
  have haccepts : ∃ r, thrice.Accepts ⟨"m1"⟩ r := by
    refine (hquestion.1 (by decide +kernel)).resolve_right ?_
    exact fun hoverlooked => absurd hoverlooked.uncounted (by decide +kernel)
  exact ⟨haccepts, (htool oneFile _ _ rfl rfl).2 (.inl haccepts)⟩

/-- A service that never sends again for the user, over a message that was sent
once. -/
def barred : Service :=
  .new { ResendConfig.standard with maxManualResends := 0 }
    (.restored (some (oneMessage [])) 5) default 5

/-- The question and the tool offer what the service refuses. -/
theorem offered_but_refused : barred.Fresh ∧ barred.shutDown = false ∧
    barred.canManuallyResend ⟨"m1"⟩ = true ∧
    Cli.Offers oneFile barred.config barred.calendar ⟨"m1"⟩
      (diskWith (oneMessage [])) ∧
    (barred.step (.resend ⟨"m1"⟩)).answer? barred.nextTask = some 0 ∧
    ¬∃ r, barred.Accepts ⟨"m1"⟩ r := by
  have hoffered : barred.canManuallyResend ⟨"m1"⟩ = true := by decide +kernel
  have hanswer :
      (barred.step (.resend ⟨"m1"⟩)).answer? barred.nextTask = some 0 := by
    decide +kernel
  refine ⟨fresh_new _ _ _ _ _, rfl, hoffered, ?_, hanswer, ?_⟩
  · exact (Cli.offers_iff_canManuallyResend rfl rfl).2 hoffered
  · rintro ⟨r, haccepts⟩
    cases (haccepts.sends [] 0 hanswer).1

end Service

end Redelivery
