import Mathlib.Data.List.Induction
import Redelivery.Delivery.Resolver
import Redelivery.Proofs.Ledger.Format

/-!
# Payloads are resolved to what was written

A resolver looks up the shape that was registered last under a name and reads
bytes in this shape.  Readers of shapes are put together from exact readers, so
every payload of the shape is read back with its metadata and its validity,
whatever follows it, and no start of its bytes is taken for a payload.
-/

namespace Redelivery

/-! ## Parts of payloads -/

theorem Lifetime.ofParts?_parts (l : Lifetime) :
    ofParts? l.seconds l.nanos = some l := by
  have hcarry : l.nanos.toNat / nanosPerSecond = 0 :=
    Nat.div_eq_of_lt l.nanos_lt
  have hkept : l.nanos.toNat % nanosPerSecond = l.nanos.toNat :=
    Nat.mod_eq_of_lt l.nanos_lt
  have hfits :
      l.seconds.toNat + l.nanos.toNat / nanosPerSecond ≤ maxUInt64 := by
    rw [hcarry]
    exact Nat.le_pred_of_lt l.seconds.toNat_lt
  obtain ⟨seconds, nanos, hnanos⟩ := l
  simp only [ofParts?, if_pos hfits, Option.some.injEq, mk.injEq]
  constructor
  · rw [hcarry, Nat.add_zero, UInt64.ofNat_toNat]
  · rw [hkept, UInt32.ofNat_toNat]

namespace Binary

theorem Reader.exact_byte : Reader.byte.Exact fun b bytes => bytes = [b] where
  reads := by
    rintro b bytes rfl _ rest
    rfl
  stays := by
    intro b input rest hread more
    cases input with
    | nil => cases hread
    | cons first others =>
      cases hread
      rfl

namespace Codec

theorem exact_boolean : boolean.Exact := by
  have hanswer (b : UInt8) : Reader.Exact
      (if b = 0 then pure false else if b = 1 then pure true
        else Reader.fail (.invalidBoolean b.toNat) : Reader Bool)
      fun value bytes => (if value then 1 else 0) = b ∧ bytes = [] := by
    by_cases hfalse : b = 0
    · rw [if_pos hfalse]
      apply (Reader.exact_pure false).mono
      rintro value bytes _ ⟨rfl, hnothing⟩
      cases value with
      | false => exact ⟨rfl, hnothing⟩
      | true => exact absurd hfalse (by decide)
    · by_cases htrue : b = 1
      · rw [if_neg hfalse, if_pos htrue]
        apply (Reader.exact_pure true).mono
        rintro value bytes _ ⟨rfl, hnothing⟩
        cases value with
        | false => exact absurd rfl hfalse
        | true => exact ⟨rfl, hnothing⟩
      · rw [if_neg hfalse, if_neg htrue]
        apply (Reader.exact_fail _).mono
        rintro value bytes _ ⟨rfl, _⟩
        cases value with
        | false => exact hfalse rfl
        | true => exact htrue rfl
  apply (Reader.exact_byte.bind hanswer).mono
  rintro value bytes _ rfl
  exact ⟨_, _, [], rfl, ⟨rfl, rfl⟩, rfl⟩

theorem exact_lifetime : lifetime.Exact := by
  have hanswer (seconds : UInt64) (nanos : UInt32) : Reader.Exact
      ((Lifetime.ofParts? seconds nanos).elim
        (Reader.fail .lifetimeTooLong) pure : Reader Lifetime)
      fun l bytes => (l.seconds = seconds ∧ l.nanos = nanos) ∧ bytes = [] := by
    cases hread : Lifetime.ofParts? seconds nanos with
    | none =>
      apply (Reader.exact_fail _).mono
      rintro l bytes _ ⟨⟨rfl, rfl⟩, _⟩
      cases (Lifetime.ofParts?_parts l).symm.trans hread
    | some kept =>
      apply (Reader.exact_pure kept).mono
      rintro l bytes _ ⟨⟨rfl, rfl⟩, hnothing⟩
      exact ⟨Option.some.inj ((Lifetime.ofParts?_parts l).symm.trans hread),
        hnothing⟩
  have hparts :=
    exact_uint64.bind fun seconds => exact_uint32.bind (hanswer seconds)
  have hread : lifetime.read = uint64.read >>= fun seconds =>
      uint32.read >>= fun nanos =>
        (Lifetime.ofParts? seconds nanos).elim
          (Reader.fail .lifetimeTooLong) pure := by
    refine congrArg (uint64.read >>= ·) (funext fun seconds => ?_)
    refine congrArg (uint32.read >>= ·) (funext fun nanos => ?_)
    cases Lifetime.ofParts? seconds nanos <;> rfl
  rw [Codec.Exact, hread]
  apply hparts.mono
  rintro l bytes _ rfl
  exact ⟨l.seconds, _, _, rfl,
    ⟨l.nanos, _, [], rfl, ⟨⟨rfl, rfl⟩, rfl⟩, (List.append_nil _).symm⟩, rfl⟩

theorem exact_metaData : metaData.Exact :=
  (exact_lifetime.pair <| exact_uint64.pair exact_text).via fun _ => rfl

end Codec

end Binary

open Binary

/-! ## Payloads -/

/-- What is inside all wrappings. -/
def Payload.core : Payload → Payload
  | .authenticated data _ => data.core
  | p => p

theorem Payload.isInvalid_core (p : Payload) :
    p.core.isInvalid = p.isInvalid := by
  induction p with
  | confidential message => rfl
  | notice withdrawn => rfl
  | authenticated data metaData ih => exact ih

def PayloadShape.form (shape : PayloadShape) : Form Payload := fun p bytes =>
  p.shape = shape ∧ bytes = p.write

theorem PayloadShape.exact_read (shape : PayloadShape) :
    shape.read.Exact shape.form := by
  induction shape with
  | confidential =>
    apply (Codec.exact_message.map Payload.confidential).mono
    rintro p bytes _ ⟨hshape, rfl⟩
    cases p with
    | confidential message => exact ⟨message, rfl, rfl⟩
    | notice withdrawn => cases hshape
    | authenticated data metaData => cases hshape
  | notice =>
    apply (Codec.exact_boolean.map Payload.notice).mono
    rintro p bytes _ ⟨hshape, rfl⟩
    cases p with
    | confidential message => cases hshape
    | notice withdrawn => exact ⟨withdrawn, rfl, rfl⟩
    | authenticated data metaData => cases hshape
  | authenticated shape ih =>
    have hparts := ih.bind fun data => Codec.exact_metaData.bind fun metaData =>
      Reader.exact_pure (Payload.authenticated data metaData)
    apply hparts.mono
    rintro p bytes _ ⟨hshape, rfl⟩
    cases p with
    | confidential message => cases hshape
    | notice withdrawn => cases hshape
    | authenticated data metaData =>
      exact ⟨data, _, _, ⟨PayloadShape.authenticated.inj hshape, rfl⟩,
        ⟨metaData, _, [], rfl, ⟨rfl, rfl⟩, (List.append_nil _).symm⟩, rfl⟩

namespace Resolver

/-! ## A resolver in use -/

/-- What is asked of a resolver. -/
inductive Call where
  | register (typeName : String) (shape : PayloadShape)
  | resolve (typeName : String) (bytes : Bytes)

def Call.registration? : Call → Option (String × PayloadShape)
  | register typeName shape => some (typeName, shape)
  | resolve _ _ => none

/-- The resolver after a call, and the answer to it if it asks for one. -/
def call (r : Resolver) : Call → Resolver × Option (Except ResolveError Payload)
  | .register typeName shape => (r.register typeName shape, none)
  | .resolve typeName bytes => (r, some (r.resolve typeName bytes))

def after (calls : List Call) : Resolver :=
  calls.foldl (fun r c => (r.call c).1) .empty

variable {calls : List Call} {typeName : String} {shape : PayloadShape}
  {bytes : Bytes}

theorem after_concat (calls : List Call) (c : Call) :
    after (calls ++ [c]) = ((after calls).call c).1 := by
  rw [after, List.foldl_append]
  rfl

/-- Only registrations make a difference to a resolver. -/
theorem shapes_after (calls : List Call) :
    (after calls).shapes = .ofList (calls.filterMap Call.registration?) := by
  induction calls using List.reverseRecOn with
  | nil => rfl
  | append_singleton calls c ih =>
    rw [after_concat, List.filterMap_append]
    cases c with
    | register typeName shape =>
      have hplaced : (after calls).shapes.insert typeName shape =
          .ofList (calls.filterMap Call.registration? ++
            [(typeName, shape)]) := by
        rw [ih, Table.ofList, Table.ofList, List.foldl_append]
        rfl
      exact hplaced
    | resolve typeName bytes =>
      rw [List.filterMap_cons_none rfl, List.filterMap_nil, List.append_nil]
      exact ih

theorem after_eq_of_registrations {calls calls' : List Call}
    (hsame : calls.filterMap Call.registration? =
      calls'.filterMap Call.registration?) :
    after calls = after calls' := by
  have hshapes : (after calls).shapes = (after calls').shapes := by
    rw [shapes_after, shapes_after, hsame]
  cases hone : after calls
  cases hother : after calls'
  rw [hone, hother] at hshapes
  rw [mk.injEq]
  exact hshapes

/-- A shape is the one that was registered last under a name. -/
def Registered (calls : List Call) (typeName : String)
    (shape : PayloadShape) : Prop :=
  ∃ earlier later,
    calls.filterMap Call.registration? = earlier ++ (typeName, shape) :: later ∧
    typeName ∉ later.map Prod.fst

theorem resolve_of_registered (hregistered : Registered calls typeName shape) :
    (after calls).resolve typeName bytes =
      match shape.read bytes with
      | .ok (p, _) => .ok p
      | .error cause => .error (.malformed typeName cause) := by
  have hshape : (after calls).shapes.get? typeName = some shape := by
    rw [shapes_after]
    exact Table.get?_ofList_eq_some_iff.2 hregistered
  cases hread : shape.read bytes <;> simp only [resolve, hshape, hread]

theorem resolve_of_unregistered
    (hmissing : typeName ∉ (calls.filterMap Call.registration?).map Prod.fst) :
    (after calls).resolve typeName bytes = .error (.unresolvable typeName) := by
  have hnone : (after calls).shapes.get? typeName = none := by
    rw [shapes_after, Table.ofList, Table.get?_foldl_insert_of_not_mem hmissing,
      Table.get?_empty]
  simp only [resolve, hnone]

/-- What a resolver answers after some calls, as far as lengths of 64 bits
go. -/
structure Answers (calls : List Call) (typeName : String) : Prop where
  /-- A payload of the shape that was registered last is given back, whatever
  follows it. -/
  whole : ∀ p : Payload, Registered calls typeName p.shape →
    p.write.length < UInt64.size →
    ∀ more, (after calls).resolve typeName (p.write ++ more) = .ok p
  /-- If its bytes are cut short, they are refused under the name. -/
  cut : ∀ p : Payload, Registered calls typeName p.shape →
    p.write.length < UInt64.size →
    ∀ start, start <+: p.write → start ≠ p.write →
      ∃ cause, (after calls).resolve typeName start =
        .error (.malformed typeName cause)
  /-- Under a name that was never registered nothing is resolved. -/
  unknown : typeName ∉ (calls.filterMap Call.registration?).map Prod.fst →
    ∀ bytes, (after calls).resolve typeName bytes =
      .error (.unresolvable typeName)
  /-- What was resolved before makes no difference to any later call. -/
  undisturbed : ∀ earlier later asked bytes,
    calls = earlier ++ .resolve asked bytes :: later →
    (after calls).call = (after (earlier ++ later)).call

/-- After every sequence of calls, payloads of the registered shapes are
resolved to what was written.  Of a wrapped payload the outermost metadata is
seen, and the validity of what is inside all wrappings. -/
theorem answers_after (calls : List Call) (typeName : String) :
    Answers calls typeName ∧ ∀ data metaData,
      (Payload.authenticated data metaData).metaData? = some metaData ∧
      (Payload.authenticated data metaData).isInvalid =
        data.core.isInvalid := by
  refine ⟨?_, fun data _ => ⟨rfl, data.isInvalid_core.symm⟩⟩
  refine {
    whole := fun p hregistered hshort more => ?_
    cut := fun p hregistered hshort start hstart hproper => ?_
    unknown := fun hmissing _ => resolve_of_unregistered hmissing
    undisturbed := fun earlier later asked bytes hcalls => ?_ }
  · have hread := p.shape.exact_read.reads ⟨rfl, rfl⟩ hshort more
    rw [resolve_of_registered hregistered, hread]
  · obtain ⟨cause, hrefused⟩ :=
      p.shape.exact_read.refuses ⟨rfl, rfl⟩ hshort hstart hproper
    rw [resolve_of_registered hregistered, hrefused]
    exact ⟨cause, rfl⟩
  · have hsame : after calls = after (earlier ++ later) := by
      apply after_eq_of_registrations
      rw [hcalls, List.filterMap_append, List.filterMap_append,
        List.filterMap_cons_none rfl]
    rw [hsame]

/-- A withdrawn notice, wrapped twice, which lives a second less a nanosecond
and then for longer than 32 bits of seconds tell. -/
def wrappedNotice : Payload :=
  .authenticated
    (.authenticated (.notice true)
      ⟨⟨0, 999999999, Nat.lt_succ_self _⟩, 250, "ReleaseNotice"⟩)
    ⟨.ofSeconds 4294967296, 251, "AuthenticatedData"⟩

/-- A name that is registered twice, with something resolved in between. -/
def reregistered : List Call :=
  [.register "notice" .confidential, .resolve "notice" [255],
    .register "notice" wrappedNotice.shape, .register "message" .confidential]

theorem answers_after_reregistered :
    Registered reregistered "notice" wrappedNotice.shape ∧
    (after reregistered).resolve "notice" (wrappedNotice.write ++ [7]) =
      .ok wrappedNotice ∧
    (∃ cause, (after reregistered).resolve "notice"
      (wrappedNotice.write.take 30) =
      .error (.malformed "notice" cause)) ∧
    (after reregistered).resolve "advert" [] =
      .error (.unresolvable "advert") := by
  have hregistered : Registered reregistered "notice" wrappedNotice.shape :=
    ⟨[("notice", .confidential)], [("message", .confidential)], rfl, by decide⟩
  obtain ⟨hnotice, -⟩ := answers_after reregistered "notice"
  obtain ⟨hadvert, -⟩ := answers_after reregistered "advert"
  exact ⟨hregistered, hnotice.whole _ hregistered (by decide) _,
    hnotice.cut _ hregistered (by decide) _ (List.take_prefix _ _) (by decide),
    hadvert.unknown (by decide) []⟩

end Resolver

end Redelivery
