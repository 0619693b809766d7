import Redelivery.Proofs.Cli.Availability
import Redelivery.Proofs.Ledger.Filing
import Redelivery.Proofs.Ledger.Pruning

/-!
# The end of a record's life

Whoever looks at a ledger takes a record for alive up to the millisecond in
which it expires: a run that starts with the ledger, those who look the message
up or list what is pending, and the tool when it prunes, lists, or says whether
the user may send a message again.  Only the column of the time that is left
draws the line one millisecond before, so in that millisecond the tool lists a
record and calls it expired.
-/

namespace Redelivery

/-! ## The column of the time that is left -/

theorem toString_ends (n : Nat) : ∃ before digit, digit.isDigit = true ∧
    (toString n).toList = before ++ [digit] := by
  have hsome : Nat.toDigits 10 n ≠ [] := Nat.toDigits_ne_nil
  have hlast := List.dropLast_concat_getLast hsome
  refine ⟨(Nat.toDigits 10 n).dropLast,
    (Nat.toDigits 10 n).getLast hsome, ?_, ?_⟩
  · exact Nat.isDigit_of_mem_toDigits (by decide) (by decide)
      (List.getLast_mem hsome)
  · simp [hlast]

/-- The last two characters of a span are a digit and a unit. -/
theorem spanText_ends (seconds : Nat) :
    ∃ before digit unit, digit.isDigit = true ∧
    (spanText seconds).toList = before ++ [digit, unit] := by
  have hspan : ∃ (n : Nat) (unit : Char),
      spanText seconds = toString n ++ String.singleton unit := by
    rw [spanText]
    split
    next => exact ⟨_, 's', rfl⟩
    next =>
      split
      next => exact ⟨_, 'm', rfl⟩
      next =>
        split
        next => exact ⟨_, 'h', rfl⟩
        next => exact ⟨_, 'd', rfl⟩
  obtain ⟨n, unit, hspan⟩ := hspan
  obtain ⟨before, digit, hdigit, hn⟩ := toString_ends n
  refine ⟨before, digit, unit, hdigit, ?_⟩
  rw [hspan, String.toList_append, hn]
  simp

namespace Cli

/-- A line of the table says in its last column that the life of its record is
over. -/
def SaysExpired (line : String) : Prop :=
  ∃ before, line = before ++ "expired"

theorem padLeft_ends (width : Nat) (text : String) :
    ∃ before, Text.padLeft width text = before ++ text :=
  ⟨String.ofList (List.replicate (width - text.toList.length) ' '), by
    simp [Text.padLeft, Text.Field.fill, Text.Alignment.margins,
      String.ofList_append]⟩

variable {l : Ledger} {now : UInt64} {r : Record}

theorem pendingLine_ends (l : Ledger) (now : UInt64) (r : Record) :
    ∃ before, pendingLine l now r =
      before ++ remainingText now r.expiresAt := by
  obtain ⟨front, hfront⟩ : ∃ front, pendingLine l now r =
      front ++ Text.padLeft 8 (remainingText now r.expiresAt) := ⟨_, rfl⟩
  obtain ⟨blanks, hblanks⟩ := padLeft_ends 8 (remainingText now r.expiresAt)
  exact ⟨front ++ blanks, by rw [hfront, hblanks, String.append_assoc]⟩

theorem not_saysExpired_spanText (before : String) (seconds : Nat) :
    ¬SaysExpired (before ++ spanText seconds) := by
  rintro ⟨before', hsame⟩
  obtain ⟨front, digit, unit, hdigit, hspan⟩ := spanText_ends seconds
  have hends : (before.toList ++ front) ++ [digit, unit] =
      (before'.toList ++ "expir".toList) ++ ['e', 'd'] := by
    simpa [hspan] using congrArg String.toList hsame
  obtain ⟨-, hlast⟩ := List.append_inj' hends rfl
  cases hlast
  cases hdigit

/-- The column says so from the last millisecond of the record's life on. -/
theorem saysExpired_pendingLine_iff :
    SaysExpired (pendingLine l now r) ↔ r.expiresAt ≤ now := by
  obtain ⟨before, hline⟩ := pendingLine_ends l now r
  rw [hline, remainingText]
  split
  next hover => exact iff_of_true ⟨before, rfl⟩ hover
  next hahead => exact iff_of_false (not_saysExpired_spanText _ _) hahead

end Cli

/-! ## What a ledger shows -/

/-- The records that are listed as pending. -/
def Ledger.pending (l : Ledger) (now : UInt64) : List Record :=
  l.listing.filter (Cli.isListed now)

theorem Service.pendingRecords_eq (s : Service) :
    s.pendingRecords = s.ledger.pending s.calendar :=
  rfl

namespace Ledger

variable {l : Ledger} {id : MessageId} {r : Record} {now : UInt64}

theorem mem_pending_iff :
    r ∈ l.pending now ↔
      r ∈ l.listing ∧ r.status.isPending = true ∧ now ≤ r.expiresAt := by
  rw [pending, List.mem_filter, Cli.isListed, Bool.and_eq_true,
    Bool.not_eq_true', Record.isExpired_eq_false_iff]

/-- Pruning takes away no record that would be listed. -/
theorem mem_pending_prune_iff :
    r ∈ (l.prune now).pending now ↔ r ∈ l.pending now := by
  simp only [mem_pending_iff, mem_listing_iff, get?_prune_eq_some_iff,
    exists_and_right]
  constructor
  · rintro ⟨⟨hfiled, -⟩, hpending⟩
    exact ⟨hfiled, hpending⟩
  · rintro ⟨hfiled, hpending, halive⟩
    exact ⟨⟨hfiled, halive⟩, hpending, halive⟩

/-- All who look at a record of a ledger at one time take it for alive just if a
condition holds. -/
structure TakenForAlive (l : Ledger) (now : UInt64) (id : MessageId)
    (r : Record) (alive : Prop) :
    Prop where
  restored : (Ledger.restored (some l) now).get? id = some r ↔ alive
  found : l.find? now id = some r ↔ alive
  pending : ∀ s : Service, s.ledger = l → s.calendar = now →
    (r ∈ s.pendingRecords ↔ r.status.isPending = true ∧ alive)
  /-- The tool offers to send it again if it was not sent too often. -/
  manual : ∀ config, Cli.manualResendShown config l now id r = true ↔
    alive ∧ manualResendAvailable (l.attempts? id) config.maxManualResends =
      true

theorem takenForAlive (hr : l.get? id = some r) :
    l.TakenForAlive now id r (now ≤ r.expiresAt) := by
  refine ⟨?restored, ?found, ?pending, ?manual⟩
  case restored => exact get?_prune_eq_some_iff.trans (and_iff_right hr)
  case found =>
    rw [find?_eq_some_iff, Record.isExpired_eq_false_iff, and_iff_right hr]
  case pending =>
    rintro s rfl rfl
    rw [s.pendingRecords_eq, mem_pending_iff,
      and_iff_right (mem_listing_iff.2 ⟨id, hr⟩)]
  case manual =>
    intro config
    rw [Cli.manualResendShown, Bool.and_eq_true, Bool.not_eq_true',
      Record.isExpired_eq_false_iff]

end Ledger

/-! ## What the tool does -/

namespace Cli

variable {f : LedgerFile} {config : ResendConfig} {now : UInt64}
  {id : MessageId} {d : Disk}
  {l : Ledger} {r : Record}

/-- However pruning a file ends, the file has its old ledger or what is left of
that; and if it ends well, just the records that are left. -/
theorem load_of_prune (now : UInt64) (hload : (f.load.run d).1 = .ok (some l)) :
    ∃ left, (f.load.run ((prune f false now).run d).2).1 = .ok (some left) ∧
      (left = l ∨ left = l.prune now) ∧
      ∀ text, ((prune f false now).run d).1 = .ok text →
        ∀ id, left.get? id = (l.prune now).get? id := by
  obtain ⟨bytes, hread, hdecode⟩ := LedgerFile.decode_of_load hload
  rw [prune, Program.run_bind, hload, f.run_load]
  dsimp only
  split
  next hnone =>
    exact ⟨l, hload, .inl rfl, fun _ _ id =>
      (Ledger.get?_prune_of_expiredCount hnone id).symm⟩
  next =>
    rw [if_neg Bool.false_ne_true, Program.run_bind]
    obtain ⟨changes, hends⟩ := Program.ends_run (f.save (l.prune now)) d
    have hpruned := Ledger.decode_encode_prune hdecode now
    cases hsaved : ((f.save (l.prune now)).run d).1 with
    | error cause =>
      simp only [pure, Program.run]
      rcases LedgerFile.readFile_of_replace hends with hsame | hnew
      · exact ⟨l, LedgerFile.load_of_decode (hsame.trans hread) hdecode,
          .inl rfl, by rintro _ ⟨⟩⟩
      · exact ⟨_, LedgerFile.load_of_decode hnew hpruned, .inr rfl,
          by rintro _ ⟨⟩⟩
    | ok done =>
      simp only [pure, Program.run]
      rw [hsaved] at hends
      rcases LedgerFile.replace_writes hends with ⟨-, hfailed, -⟩ | ⟨-, hnew, -⟩
      · exact absurd rfl hfailed
      · exact ⟨_, LedgerFile.load_of_decode hnew hpruned, .inr rfl,
          fun _ _ _ => rfl⟩

theorem run_pending (hload : (f.load.run d).1 = .ok (some l)) :
    ((perform f config now .pending).run d).1 =
      .ok (pendingReport (l.prune now) now) := by
  rw [perform, Program.run_bind, run_loadThere hload]
  rfl

theorem run_show_of_le (hload : (f.load.run d).1 = .ok (some l))
    (hr : l.get? id = some r) (halive : now ≤ r.expiresAt) :
    ((perform f config now (.show id)).run d).1 =
      .ok (showReport config (l.prune now) now id r) := by
  rw [run_show hload, Ledger.get?_prune_eq_some_iff.2 ⟨hr, halive⟩]

theorem run_show_of_not_le (hload : (f.load.run d).1 = .ok (some l))
    (hr : l.get? id = some r) (hover : ¬now ≤ r.expiresAt) :
    ((perform f config now (.show id)).run d).1 = .error (.noRecord id) := by
  have hnone : (l.prune now).get? id = none := by
    rw [Ledger.get?_prune, Ledger.find?_eq_none_iff]
    intro r' hr'
    cases hr.symm.trans hr'
    exact decide_eq_true (UInt64.not_le.1 hover)
  rw [run_show hload, hnone]

theorem lines_append_cons (before : List String) (line : String)
    (after : List String) :
    lines (before ++ line :: after) =
      lines before ++ (line ++ "\n") ++ lines after := by
  simp [lines, String.append_assoc]

/-- The table has a line for every record that is listed. -/
theorem pendingReport_has_line (hr : r ∈ l.pending now) :
    ∃ before after, pendingReport l now =
      before ++ (pendingLine l now r ++ "\n") ++ after := by
  rw [Ledger.pending] at hr
  rw [pendingReport]
  split
  next hnone =>
    rw [hnone] at hr
    cases hr
  next =>
    obtain ⟨first, others, hsplit⟩ :=
      List.append_of_mem (List.mem_map_of_mem hr)
    dsimp only
    rw [hsplit, ← List.cons_append, lines_append_cons, String.append_assoc]
    exact ⟨_, _, rfl⟩

/-- What the tool does with a ledger file, and a run that starts with it, takes
a record for alive just if a condition holds. -/
structure TakesForAlive (f : LedgerFile) (d : Disk) (l : Ledger) (now : UInt64)
    (id : MessageId) (r : Record) (alive : Prop) : Prop where
  loaded : ∃ loaded, ((f.loadLive now).run d).1 = .ok loaded ∧
    (loaded.get? id = some r ↔ alive)
  /-- It is still in the file after the file was pruned; if the pruning failed,
  it may be there although it is not alive. -/
  pruned : ∃ left,
    (f.load.run ((prune f false now).run d).2).1 = .ok (some left) ∧
    (alive → left.get? id = some r) ∧
    ∀ text, ((prune f false now).run d).1 = .ok text →
      (left.get? id = some r ↔ alive)
  /-- It is in the table if its delivery is pending. -/
  listed : ∀ config, ∃ loaded, ((perform f config now .pending).run d).1 =
    .ok (pendingReport loaded now) ∧
      (r ∈ loaded.pending now ↔ r.status.isPending = true ∧ alive)
  printed : ∀ config, r.status.isPending = true → alive → ∃ shown before after,
    ((perform f config now .pending).run d).1 =
      .ok (before ++ (pendingLine shown now r ++ "\n") ++ after)
  /-- The user is offered to send the message again if it was not sent too
  often. -/
  offered : ∀ config, Offers f config now id d ↔
    alive ∧ manualResendAvailable (l.attempts? id) config.maxManualResends =
      true
  denied : ∀ config,
    ((perform f config now (.show id)).run d).1 = .error (.noRecord id) ↔ ¬alive

theorem takesForAlive (hload : (f.load.run d).1 = .ok (some l))
    (hr : l.get? id = some r) :
    TakesForAlive f d l now id r (now ≤ r.expiresAt) := by
  have hkept : (l.prune now).get? id = some r ↔ now ≤ r.expiresAt :=
    Ledger.get?_prune_eq_some_iff.trans (and_iff_right hr)
  have hlisted : r ∈ (l.prune now).pending now ↔
      r.status.isPending = true ∧ now ≤ r.expiresAt := by
    rw [Ledger.mem_pending_prune_iff, Ledger.mem_pending_iff,
      and_iff_right (Ledger.mem_listing_iff.2 ⟨id, hr⟩)]
  refine ⟨?loaded, ?pruned, fun _ =>
    ⟨l.prune now, run_pending hload, hlisted⟩, ?printed, ?offered, ?denied⟩
  case loaded =>
    refine ⟨l.prune now, ?_, hkept⟩
    rw [LedgerFile.run_loadLive, hload]
    rfl
  case pruned =>
    obtain ⟨left, hleft, hcases, hpruned⟩ := load_of_prune now hload
    refine ⟨left, hleft, fun halive => ?_,
      fun text htext => by rw [hpruned text htext, hkept]⟩
    rcases hcases with rfl | rfl
    · exact hr
    · exact hkept.2 halive
  case printed =>
    intro config hpending halive
    obtain ⟨before, after, hline⟩ :=
      pendingReport_has_line (hlisted.2 ⟨hpending, halive⟩)
    exact ⟨l.prune now, before, after, by rw [run_pending hload, hline]⟩
  case offered =>
    intro config
    rw [Offers]
    by_cases halive : now ≤ r.expiresAt
    · simp only [run_show_of_le hload hr halive, Except.ok.injEq,
        showReport_offers_iff, (Ledger.takenForAlive (hkept.2 halive)).manual,
        Ledger.attempts?_prune_of_le hr halive]
    · simp [run_show_of_not_le hload hr halive, halive]
  case denied =>
    intro config
    by_cases halive : now ≤ r.expiresAt
    · simp [run_show_of_le hload hr halive, halive]
    · simp [run_show_of_not_le hload hr halive, halive]

/-- At every time, a record is taken for alive by all up to the millisecond in
which it expires, but the column of the time that is left takes it for expired
from that millisecond on.  So a message that is listed is called expired just in
the last millisecond of its record's life. -/
theorem alive_until_expiry (l : Ledger) (now : UInt64) :
    (∀ id r, l.get? id = some r → l.TakenForAlive now id r (now ≤ r.expiresAt) ∧
      ∀ f d, (f.load.run d).1 = .ok (some l) →
        TakesForAlive f d l now id r (now ≤ r.expiresAt)) ∧
    (∀ shown r, SaysExpired (pendingLine shown now r) ↔ r.expiresAt ≤ now) ∧
    ∀ r ∈ l.pending now, ∀ shown, SaysExpired (pendingLine shown now r) ↔
      r.expiresAt = now := by
  refine ⟨fun id r hr =>
    ⟨Ledger.takenForAlive hr, fun f d hload => takesForAlive hload hr⟩,
    fun _ _ => saysExpired_pendingLine_iff, ?_⟩
  intro r hr shown
  have halive := (Ledger.mem_pending_iff.1 hr).2.2
  rw [saysExpired_pendingLine_iff]
  exact ⟨fun hover => UInt64.le_antisymm hover halive,
    fun hnow => hnow ▸ UInt64.le_refl _⟩

def brief : Record :=
  { LedgerFile.mortal ⟨"m"⟩ 100 with status := .sent }

def briefly : Ledger :=
  .upsert .empty brief

theorem load_briefly :
    (LedgerFile.standard.load.run (LedgerFile.standardWith briefly)).1 =
    .ok (some briefly) := rfl

theorem alive_until_expiry_briefly :
    briefly.get? ⟨"m"⟩ = some brief ∧
      (LedgerFile.standard.load.run (LedgerFile.standardWith briefly)).1 =
        .ok (some briefly) ∧
      Offers .standard .standard 100 ⟨"m"⟩ (LedgerFile.standardWith briefly) ∧
      ((perform .standard .standard 101 (.show ⟨"m"⟩)).run
        (LedgerFile.standardWith briefly)).1 =
        .error (.noRecord ⟨"m"⟩) ∧
      (∃ left, (LedgerFile.standard.load.run
        ((prune .standard false 101).run
          (LedgerFile.standardWith briefly)).2).1 = .ok (some left) ∧
          left.get? ⟨"m"⟩ ≠ some brief) ∧
      ¬SaysExpired (pendingLine briefly 99 brief) ∧
      SaysExpired (pendingLine briefly 100 brief) := by
  have hr : briefly.get? ⟨"m"⟩ = some brief := rfl
  have hlast := ((alive_until_expiry briefly 100).1 _ _ hr).2 _ _ load_briefly
  have hover := ((alive_until_expiry briefly 101).1 _ _ hr).2 _ _ load_briefly
  have hlisted : brief ∈ briefly.pending 100 :=
    Ledger.mem_pending_iff.2
      ⟨Ledger.mem_listing_iff.2 ⟨_, hr⟩, rfl, UInt64.le_refl _⟩
  have hremoved :
      ((prune .standard false 101).run (LedgerFile.standardWith briefly)).1 =
      .ok "Removed 1 expired record(s), 0 remaining\n" := rfl
  obtain ⟨left, hleft, -, hpruned⟩ := hover.pruned
  refine ⟨hr, load_briefly, (hlast.offered _).2 (by decide),
    (hover.denied _).2 (by decide), ⟨left, hleft, fun hkept => ?_⟩, ?_, ?_⟩
  · exact absurd ((hpruned _ hremoved).1 hkept) (by decide)
  · rw [(alive_until_expiry briefly 99).2.1]
    decide
  · exact ((alive_until_expiry briefly 100).2.2 brief hlisted briefly).2 rfl

/-- At 100 the tool keeps and lists the message, and calls it expired: there is
no one condition by which a record is found and by which its line does not say
that it has expired. -/
theorem listed_as_expired :
    ((perform .standard .standard 100 .pending).run
      (LedgerFile.standardWith briefly)).1 =
        .ok (lines ["MESSAGE ID                   STATUS               ATTEMPTS    AGE  EXPIRES",
          "m                            SENT                        0     0s  expired", "",
          "Total: 1 message(s)"]) ∧
      briefly.prune 100 = briefly ∧ briefly.find? 100 ⟨"m"⟩ = some brief ∧
      ¬∃ alive : UInt64 → UInt64 → Prop, ∀ l now id r, l.get? id = some r →
        (l.find? now id = some r ↔ alive now r.expiresAt) ∧
          (¬SaysExpired (pendingLine l now r) ↔ alive now r.expiresAt) := by
  have hpruned : briefly.prune 100 = briefly := by decide
  have hlisting : briefly.listing = [brief] := List.mergeSort_singleton _
  refine ⟨?_, hpruned, rfl, ?_⟩
  · rw [run_pending load_briefly, hpruned, pendingReport, hlisting]
    exact congrArg Except.ok (by decide +kernel)
  rintro ⟨alive, hall⟩
  obtain ⟨hfound, hcolumn⟩ := hall briefly 100 ⟨"m"⟩ brief rfl
  have halive : alive 100 brief.expiresAt := hfound.1 rfl
  exact hcolumn.2 halive (saysExpired_pendingLine_iff.2 (by decide))

end Cli

end Redelivery
