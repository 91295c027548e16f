import BookmarkSync.Proofs.Codec.RoundTrip
import BookmarkSync.Proofs.Json.Order
import BookmarkSync.Proofs.Sequence

/-!
# `BookmarkSync.Proofs.Codec.Members` — the order of members does not matter

The members of an object are read one after the other, in the order in which the source gives them. Fields
that are set independently of each other can be set in any order, so where no key repeats, a record is read
as if its fields were looked up one by one in the order of declaration (`read_eq_ok_iff`). What is wrong with
an object, on the other hand, depends on the order: the first member that has a fault tells it, and a field
that is missing is only missed at the end (`read_eq_error_iff`).
-/

namespace BookmarkSync.Codec

/-! ## Results that agree when they are good -/

/-- The two results are the same unless both are errors. -/
def SameOk {ε ε' α : Type} (x : Except ε α) (y : Except ε' α) : Prop := ∀ a, x = .ok a ↔ y = .ok a

namespace SameOk

variable {ε ε' ε'' α β : Type} {x : Except ε α} {y : Except ε' α} {z : Except ε'' α}

/-- Results of different error types can be compared, so this is no equivalence of one type; but it behaves as
one. -/
theorem refl (x : Except ε α) : SameOk x x := fun _ => Iff.rfl

theorem symm (h : SameOk x y) : SameOk y x := fun a => (h a).symm

theorem trans (h : SameOk x y) (h' : SameOk y z) : SameOk x z := fun a => (h a).trans (h' a)

theorem ok (a : α) : SameOk (.ok a : Except ε α) (.ok a : Except ε' α) := fun b => by
  rw [Except.ok.injEq, Except.ok.injEq]

/-- Any two errors agree. -/
theorem errors (e : ε) (e' : ε') : SameOk (.error e : Except ε α) (.error e' : Except ε' α) :=
  fun _ => ⟨nofun, nofun⟩

/-- What an error is called makes no difference. -/
theorem mapError (f : ε → ε') (x : Except ε α) : SameOk (x.mapError f) x := by
  cases x with
  | error e => exact errors (f e) e
  | ok a => exact ok a

/-- Computations agree if their first steps do, and what follows does for every result. -/
theorem bind {f : α → Except ε β} {g : α → Except ε' β} (h : SameOk x y) (hfg : ∀ a, SameOk (f a) (g a)) :
    SameOk (x >>= f) (y >>= g) := by
  intro b
  rw [bind_eq_ok, bind_eq_ok]
  constructor
  · rintro ⟨a, ha, hb⟩
    exact ⟨a, (h a).mp ha, (hfg a b).mp hb⟩
  · rintro ⟨a, ha, hb⟩
    exact ⟨a, (h a).mpr ha, (hfg a b).mpr hb⟩

theorem map (h : SameOk x y) (f : α → β) : SameOk (x.map f) (y.map f) := h.bind fun a => ok (f a)

end SameOk

/-! ## Fields -/

section Fields

variable {σ ρ : Type}

/-- Two fields can be set in either order. -/
def Field.Commutes (f g : Field σ ρ) : Prop := ∀ u v r, SameOk (f.set u r >>= g.set v) (g.set v r >>= f.set u)

/-- Fields that are put into different places of a record commute, whatever is read for them. -/
theorem Field.commutes_put {α β : Type} {name name' : String} {required required' : Bool}
    {item : σ → Except ReadError α} {item' : σ → Except ReadError β} {put : α → ρ → ρ} {put' : β → ρ → ρ}
    (h : ∀ a b r, put' b (put a r) = put a (put' b r)) :
    Commutes (⟨name, required, fun v r => (item v).map fun a => put a r⟩ : Field σ ρ)
      ⟨name', required', fun v r => (item' v).map fun b => put' b r⟩ := by
  intro u v r
  show SameOk (((item u).map _) >>= fun r => (item' v).map _) (((item' v).map _) >>= fun r => (item u).map _)
  intro r'
  cases item u with
  | error e =>
    -- whichever is set first, there is no record in the end
    cases item' v <;> constructor <;> nofun
  | ok a =>
    cases item' v with
    | error e => constructor <;> nofun
    | ok b =>
      show Except.ok (put' b (put a r)) = _ ↔ Except.ok (put a (put' b r)) = _
      rw [h a b r]

/-- What is wrong with a value for the field, if anything is, is told by the value alone. -/
def Field.Told (fault? : σ → Option ReadError) (field : Field σ ρ) : Prop :=
  ∀ v, match fault? v with
    | some e => ∀ r, field.set v r = .error e
    | none => ∀ r, ∃ r', field.set v r = .ok r'

/-- The fault of a reading, if it has one. -/
def faultOf {α : Type} : Except ReadError α → Option ReadError
  | .error e => some e
  | .ok _ => none

/-- A field that is put into its place has the fault that its reader has. -/
theorem Field.told_put {α : Type} {name : String} {required : Bool} {item : σ → Except ReadError α}
    {put : α → ρ → ρ} {fault? : σ → Option ReadError} (h : ∀ v, faultOf (item v) = fault? v) :
    Told fault? (⟨name, required, fun v r => (item v).map fun a => put a r⟩ : Field σ ρ) := by
  intro v
  rw [← h v]
  show match faultOf (item v) with
    | some e => ∀ r, (item v).map _ = .error e
    | none => ∀ r, ∃ r', (item v).map _ = .ok r'
  cases item v with
  | error e => exact fun _ => rfl
  | ok a => exact fun r => ⟨put a r, rfl⟩

/-- The fields have different names, and any two of them can be set in either order. -/
structure Independent (fields : List (Field σ ρ)) : Prop where
  names : (fields.map Field.name).Nodup
  commute : fields.Pairwise Field.Commutes

/-- Sets the fields that are known, in the order of declaration. -/
def setKnown (get : String → Option σ) : List (Field σ ρ) → ρ → Except ReadError ρ
  | [], r => .ok r
  | field :: fields, r =>
    match get field.name with
    | none => setKnown get fields r
    | some v => field.set v r >>= setKnown get fields

/-- Looks up the fields in the order of declaration; a required one must be found. -/
def readGiven (get : String → Option σ) : List (Field σ ρ) → ρ → Except ReadError ρ
  | [], r => .ok r
  | field :: fields, r =>
    match get field.name with
    | none => if field.required then .error (.missingField field.name) else readGiven get fields r
    | some v => field.set v r >>= readGiven get fields

variable {get get' : String → Option σ} {fields : List (Field σ ρ)} {r r' : ρ}

/-- Where none of the fields is known, nothing is set. -/
theorem setKnown_of_none (h : ∀ field ∈ fields, get field.name = none) (r : ρ) :
    setKnown get fields r = .ok r := by
  induction fields with
  | nil => rfl
  | cons field fields ih =>
    rw [List.forall_mem_cons] at h
    rw [setKnown, h.1]
    exact ih h.2

/-- Only what is found under the names of the fields matters. -/
theorem setKnown_congr (h : ∀ field ∈ fields, get field.name = get' field.name) :
    setKnown get fields = setKnown get' fields := by
  induction fields with
  | nil => rfl
  | cons field fields ih =>
    rw [List.forall_mem_cons] at h
    funext r
    rw [setKnown, setKnown, h.1, ih h.2]

/-- **One more known field can be set before all others.** -/
theorem setKnown_insert {field : Field σ ρ} {v : σ} (hind : Independent fields) (hmem : field ∈ fields)
    (hnone : get field.name = none) (hsome : get' field.name = some v)
    (hsame : ∀ name, name ≠ field.name → get' name = get name) (r : ρ) :
    SameOk (setKnown get' fields r) (field.set v r >>= setKnown get fields) := by
  obtain ⟨hnames, hcommute⟩ := hind
  -- the field is looked for in the order of declaration, and passes those before it
  induction fields generalizing r with
  | nil => cases hmem
  | cons g gs ih =>
    rw [List.map_cons, List.nodup_cons] at hnames
    rw [List.pairwise_cons] at hcommute
    rcases List.mem_cons.mp hmem with rfl | hlater
    · -- it is the first field itself, and no later one is looked up under its name
      have hgs : setKnown get' gs = setKnown get gs := by
        refine setKnown_congr fun f hf => hsame _ ?_
        intro heq
        exact hnames.1 (heq ▸ List.mem_map_of_mem hf)
      have hskip : setKnown get (field :: gs) = setKnown get gs := by
        funext r
        rw [setKnown, hnone]
      rw [setKnown, hsome, hskip, hgs]
      exact SameOk.refl _
    · have hne : g.name ≠ field.name := by
        intro heq
        exact hnames.1 (heq ▸ List.mem_map_of_mem hlater)
      have hrest := fun r => ih hlater r hnames.2 hcommute.2
      -- an earlier field stays first, if it is known at all
      cases hg : get g.name with
      | none =>
        have hskip : setKnown get (g :: gs) = setKnown get gs := by
          funext r
          rw [setKnown, hg]
        rw [setKnown, hsame _ hne, hg, hskip]
        exact hrest r
      | some u =>
        have hset : setKnown get (g :: gs) = fun r => g.set u r >>= setKnown get gs := by
          funext r
          rw [setKnown, hg]
        rw [setKnown, hsame _ hne, hg, hset]
        -- the two fields change places
        refine ((SameOk.refl _).bind hrest).trans ?_
        have hswap := (hcommute.1 field hlater u v r).bind fun r => SameOk.refl (setKnown get gs r)
        rwa [bind_assoc, bind_assoc] at hswap

/-- What is looked up as a record is what is set, once nothing required is missing. -/
theorem readGiven_eq_ok_iff : readGiven get fields r = .ok r' ↔
    setKnown get fields r = .ok r' ∧ ∀ field ∈ fields, field.required = true → get field.name ≠ none := by
  induction fields generalizing r with
  | nil => simp [readGiven, setKnown]
  | cons field fields ih =>
    rw [readGiven, setKnown, List.forall_mem_cons]
    -- a field that is not found must not be required
    cases hget : get field.name with
    | none =>
      cases hrequired : field.required with
      | true => simp
      | false => simpa using ih
    | some v =>
      simp only [bind_eq_ok, ih]
      constructor
      · rintro ⟨r₁, hset, hknown, hrest⟩
        exact ⟨⟨r₁, hset, hknown⟩, fun _ => nofun, hrest⟩
      · rintro ⟨⟨r₁, hset, hknown⟩, -, hrest⟩
        exact ⟨r₁, hset, hknown, hrest⟩

section Given

variable {α : Type} {name : String} {item : σ → Except ReadError α} {put : α → ρ → ρ}

/-- What is read from a member can be named before the member. -/
theorem exists_given_iff {o : Option σ} {P : α → Prop} :
    (∃ v, o = some v ∧ ∃ a, item v = .ok a ∧ P a) ↔ ∃ a, (∃ v, o = some v ∧ item v = .ok a) ∧ P a := by
  constructor
  · rintro ⟨v, hv, a, ha, h⟩
    exact ⟨a, ⟨v, hv, ha⟩, h⟩
  · rintro ⟨a, ⟨v, hv, ha⟩, h⟩
    exact ⟨v, hv, a, ha, h⟩

/-- What a field with a member makes of the record. -/
theorem set_bind_eq_ok {required : Bool} {v : σ} {f : ρ → Except ReadError ρ} :
    (Field.set ⟨name, required, fun v r => (item v).map fun a => put a r⟩ v r >>= f) = .ok r' ↔
      ∃ a, item v = .ok a ∧ f (put a r) = .ok r' := by
  rw [bind_eq_ok]
  show (∃ r₁, (item v).map _ = .ok r₁ ∧ _) ↔ _
  cases item v with
  | error e => simp [Except.map]
  | ok a => simp [Except.map]

/-- A field that must be there gives what is read from its member. -/
theorem readGiven_needed : readGiven get (.needed name item put :: fields) r = .ok r' ↔
    ∃ a, (∃ v, get name = some v ∧ item v = .ok a) ∧ readGiven get fields (put a r) = .ok r' := by
  rw [readGiven, ← exists_given_iff]
  show (match get name with | none => _ | some v => _) = _ ↔ _
  cases get name with
  | none => simp [Field.needed]
  | some v =>
    simp only [Option.some.injEq, exists_eq_left']
    exact set_bind_eq_ok

/-- A field that may be absent gives its default then, which the record has already. -/
theorem readGiven_optional {d : α} (hblank : put d r = r) :
    readGiven get (.optional name item put :: fields) r = .ok r' ↔
    ∃ a, (get name = none ∧ a = d ∨ ∃ v, get name = some v ∧ item v = .ok a) ∧
      readGiven get fields (put a r) = .ok r' := by
  rw [readGiven]
  show (match get name with | none => _ | some v => _) = _ ↔ _
  cases get name with
  | none => simp [Field.optional, hblank]
  | some v =>
    simp only [reduceCtorEq, false_and, false_or, Option.some.injEq, exists_eq_left']
    exact set_bind_eq_ok

section Positional

variable {format : RecordFormat σ ρ} {i : Nat} {vs : List σ}

/-- A field that must be there takes the next item. -/
theorem readItems_needed [Source σ] :
    RecordFormat.readItems format none i (.needed name item put :: fields) vs r = .ok r' ↔
      ∃ v vs' a, vs = v :: vs' ∧ item v = .ok a ∧
        RecordFormat.readItems format none (i + 1) fields vs' (put a r) = .ok r' := by
  cases vs with
  | nil =>
    constructor
    · nofun
    · rintro ⟨v, vs', a, hnil, -⟩
      cases hnil
  | cons v vs =>
    rw [RecordFormat.readItems]
    -- a positional field consumes the first item and leaves the rest to the later fields
    refine set_bind_eq_ok.trans ?_
    constructor
    · rintro ⟨a, ha, h⟩
      exact ⟨v, vs, a, rfl, ha, h⟩
    · rintro ⟨v', vs', a, heq, ha, h⟩
      cases heq
      exact ⟨a, ha, h⟩

/-- A last field that may be absent gives its default when no item is left. -/
theorem readItems_optional [Source σ] {d : α} (hblank : put d r = r) :
    RecordFormat.readItems format none i [.optional name item put] vs r = .ok r' ↔
      ∃ a, (vs = [] ∧ a = d ∨ ∃ v vs', vs = v :: vs' ∧ item v = .ok a) ∧ put a r = r' := by
  cases vs with
  | nil =>
    show Except.ok r = Except.ok r' ↔ _
    simp [hblank]
  | cons v vs =>
    rw [RecordFormat.readItems]
    refine set_bind_eq_ok.trans ?_
    simp only [RecordFormat.readItems, Except.ok.injEq, reduceCtorEq, false_and, false_or, List.cons.injEq]
    constructor
    · rintro ⟨a, ha, h⟩
      exact ⟨a, ⟨v, vs, ⟨rfl, rfl⟩, ha⟩, h⟩
    · rintro ⟨a, ⟨v', vs', ⟨rfl, -⟩, ha⟩, h⟩
      exact ⟨a, ha, h⟩

end Positional

end Given

end Fields

/-! ## Members -/

section Members

variable {σ ρ : Type} {fields : List (Field σ ρ)} {ms : List (String × σ)} {seen seen' : List String} {r r' : ρ}

/-- Members whose keys are known. -/
def named (ms : List (String × σ)) : List (Except Json.Fault String × σ) := ms.map fun m => (.ok m.1, m.2)

/-- The field that is found for a key has it as its name, and if none is found, no field has. -/
theorem name_eq_of_find? {k : String} {field : Field σ ρ} (h : fields.find? (·.name == k) = some field) :
    field.name = k := by simpa using List.find?_some h

theorem ne_of_find? {k : String} (h : fields.find? (·.name == k) = none) :
    ∀ field ∈ fields, field.name ≠ k := by
  intro field hfield
  simpa using List.find?_eq_none.mp h field hfield

theorem map_bind_snd {ε α β γ : Type} (x : Except ε α) (f : α → Except ε (β × γ)) :
    (x >>= f).map Prod.snd = x >>= fun a => (f a).map Prod.snd := by cases x <;> rfl

/-- The first required field that is not found. -/
def missingGiven? (get : String → Option σ) (fields : List (Field σ ρ)) : Option String :=
  (fields.find? fun field => field.required && (get field.name).isNone).map Field.name

/-- Nothing is missing if all required fields are found. -/
theorem missingGiven?_eq_none_iff {get : String → Option σ} : missingGiven? get fields = none ↔
    ∀ field ∈ fields, field.required = true → get field.name ≠ none := by
  simp [missingGiven?]

/-- The required fields are looked for in the order of declaration. -/
theorem missingGiven?_eq_find? (get : String → Option σ) (fields : List (Field σ ρ)) : missingGiven? get fields
    = ((fields.filter Field.required).map Field.name).find? fun name => (get name).isNone := by
  rw [missingGiven?, List.find?_map, List.find?_filter]
  congr 2
  funext field
  simp only [Function.comp, Bool.decide_and, Bool.decide_eq_true]

variable [Source σ]

namespace RecordFormat

/-- A member that no field asks for is passed over. -/
theorem readMembers_unknown {k : String} {v : σ} (hfind : fields.find? (·.name == k) = none)
    (hskip : Source.skip v = .ok ()) :
    readMembers fields (named ((k, v) :: ms)) seen r = readMembers fields (named ms) seen r := by
  simp only [named, List.map_cons, readMembers, Source.read, mapError_ok, bind, Except.bind, hfind, hskip]

/-- A member that a field asks for sets it, and its key must not come again. -/
theorem readMembers_known {k : String} {v : σ} {field : Field σ ρ}
    (hfind : fields.find? (·.name == k) = some field) (hfresh : k ∉ seen) :
    readMembers fields (named ((k, v) :: ms)) seen r
      = field.set v r >>= fun r => readMembers fields (named ms) (k :: seen) r := by
  simp only [named, List.map_cons, readMembers, Source.read, mapError_ok, bind, Except.bind, hfind,
    hfresh, if_false]

/-- **Members that repeat no key set what is known by them**, in whatever order they stand. -/
theorem readMembers_sameOk (hind : Independent fields) (hkeys : (ms.map Prod.fst).Nodup)
    (hskip : ∀ m ∈ ms, Source.skip m.2 = .ok ()) (hfresh : ∀ m ∈ ms, m.1 ∉ seen) (r : ρ) :
    SameOk ((readMembers fields (named ms) seen r).map Prod.snd) (setKnown (List.lookup · ms) fields r) := by
  -- by the members; `seen` grows with each of them, and none of the later keys is in it
  induction ms generalizing seen r with
  | nil =>
    rw [setKnown_of_none (fun _ _ => rfl)]
    exact SameOk.refl _
  | cons m ms ih =>
    obtain ⟨k, v⟩ := m
    rw [List.map_cons, List.nodup_cons] at hkeys
    rw [List.forall_mem_cons] at hskip hfresh
    have hlater : ∀ k' ∈ ms.map Prod.fst, k' ≠ k := by
      rintro k' hk' rfl
      exact hkeys.1 hk'
    cases hfind : fields.find? (·.name == k) with
    | none =>
      have hsame : setKnown (List.lookup · ((k, v) :: ms)) fields = setKnown (List.lookup · ms) fields :=
        setKnown_congr fun field hfield => Json.lookup_cons_of_ne (ne_of_find? hfind field hfield) v
      rw [readMembers_unknown hfind hskip.1, hsame]
      exact ih hkeys.2 hskip.2 hfresh.2 r
    | some field =>
      have hname : field.name = k := name_eq_of_find? hfind
      have hrest : ∀ r, SameOk ((readMembers fields (named ms) (k :: seen) r).map Prod.snd)
          (setKnown (List.lookup · ms) fields r) := by
        refine fun r => ih hkeys.2 hskip.2 (fun m hm => ?_) r
        rw [List.mem_cons, not_or]
        exact ⟨hlater m.1 (List.mem_map_of_mem hm), hfresh.2 m hm⟩
      rw [readMembers_known hfind hfresh.1, map_bind_snd]
      refine ((SameOk.refl _).bind hrest).trans (SameOk.symm ?_)
      -- the member's field is set before those of the later members, which do not repeat its key
      refine setKnown_insert hind (List.mem_of_find?_eq_some hfind) ?_ ?_ ?_ r
      · rw [hname]
        exact Json.lookup_eq_none_iff.mpr hkeys.1
      · rw [hname]
        exact List.lookup_cons_self
      · rw [hname]
        exact fun name hne => Json.lookup_cons_of_ne hne v

/-- The fields that have been seen in the end are those that the members name. -/
theorem mem_seen_of_readMembers (h : readMembers fields (named ms) seen r = .ok (seen', r')) :
    ∀ field ∈ fields, field.name ∈ seen' ↔ field.name ∈ seen ∨ field.name ∈ ms.map Prod.fst := by
  induction ms generalizing seen r with
  | nil =>
    cases h
    simp
  | cons m ms ih =>
    obtain ⟨k, v⟩ := m
    intro field hfield
    -- the first key among those of all members
    have hcons : ∀ {P : Prop}, (P ∨ field.name ∈ ((k, v) :: ms).map Prod.fst) ↔
        (field.name = k ∨ P) ∨ field.name ∈ ms.map Prod.fst := by
      intro P
      rw [List.map_cons, List.mem_cons]
      constructor
      · rintro (hP | heq | hlater)
        · exact .inl (.inr hP)
        · exact .inl (.inl heq)
        · exact .inr hlater
      · rintro ((heq | hP) | hlater)
        · exact .inr (.inl heq)
        · exact .inl hP
        · exact .inr (.inr hlater)
    simp only [named, List.map_cons, readMembers, Source.read, mapError_ok, bind, Except.bind] at h
    rw [hcons]
    split at h
    · next hfind =>
      split at h
      · cases h
      · rw [ih h field hfield]
        simp [ne_of_find? hfind field hfield]
    · split at h
      · cases h
      · split at h
        · cases h
        · rw [ih h field hfield, List.mem_cons]

/-- A field that is missing among those seen is one that no member names. -/
theorem missing?_of_readMembers (h : readMembers fields (named ms) [] r = .ok (seen', r')) :
    missing? fields seen' = missingGiven? (List.lookup · ms) fields := by
  have hseen := mem_seen_of_readMembers h
  unfold missing? missingGiven?
  rw [← List.head?_filter, ← List.head?_filter]
  congr 2
  refine List.filter_congr fun field hfield => ?_
  have hunseen : seen'.contains field.name = false ↔ List.lookup field.name ms = none := by
    rw [Json.lookup_eq_none_iff, ← Bool.not_eq_true, List.contains_iff_mem, hseen field hfield]
    simp
  congr 1
  rw [Bool.eq_iff_iff, Bool.not_eq_true', hunseen, Option.isNone_iff_eq_none]

variable {format : RecordFormat σ ρ} {v : σ}

/-- How an object with these members is read. -/
theorem read_named (hrecord : Source.record format.name v = .ok (.named (named ms) none)) :
    format.read v = (readMembers format.fields (named ms) [] format.blank) >>= fun sr =>
      match missing? format.fields sr.1 with
      | some name => .error (.missingField name)
      | none => .ok sr.2 := by
  simp only [read, hrecord, bind, Except.bind]
  rfl

/-- **An object that repeats no key is read as if its fields were looked up in the order of declaration.** -/
theorem read_eq_ok_iff (hind : Independent format.fields)
    (hrecord : Source.record format.name v = .ok (.named (named ms) none)) (hkeys : (ms.map Prod.fst).Nodup)
    (hskip : ∀ m ∈ ms, Source.skip m.2 = .ok ()) :
    format.read v = .ok r ↔ readGiven (List.lookup · ms) format.fields format.blank = .ok r := by
  have hknown := readMembers_sameOk hind hkeys hskip (fun _ _ => List.not_mem_nil) format.blank r
  have hrequired : missingGiven? (List.lookup · ms) format.fields = none ↔
      ∀ field ∈ format.fields, field.required = true → List.lookup field.name ms ≠ none :=
    missingGiven?_eq_none_iff
  rw [read_named hrecord, readGiven_eq_ok_iff, ← hknown, bind_eq_ok, ← hrequired]
  constructor
  · rintro ⟨⟨seen, r'⟩, hmembers, hend⟩
    rw [missing?_of_readMembers hmembers] at hend
    -- a field that is missing would have ended the reading
    cases hmissing : missingGiven? (List.lookup · ms) format.fields with
    | some name =>
      rw [hmissing] at hend
      cases hend
    | none =>
      rw [hmissing] at hend
      cases hend
      exact ⟨by rw [hmembers]; rfl, rfl⟩
  · rintro ⟨hmembers, hmissing⟩
    obtain ⟨⟨seen, r'⟩, hread, rfl⟩ := Json.map_eq_ok hmembers
    refine ⟨(seen, r'), hread, ?_⟩
    rw [missing?_of_readMembers hread, hmissing]

/-! ### Faults -/

section Faults

variable {fault? : String → σ → Option ReadError}

/-- The faults of members are told by their keys and values. -/
structure ToldBy (fault? : String → σ → Option ReadError) (fields : List (Field σ ρ)) : Prop where
  known : ∀ field ∈ fields, field.Told (fault? field.name)
  unknown : ∀ k, (∀ field ∈ fields, field.name ≠ k) → ∀ v, fault? k v = none

/-- **Members are read up to the first one that has a fault.** -/
theorem readMembers_told (htold : ToldBy fault? fields) (hkeys : (ms.map Prod.fst).Nodup)
    (hskip : ∀ m ∈ ms, Source.skip m.2 = .ok ()) (hfresh : ∀ m ∈ ms, m.1 ∉ seen) (r : ρ) :
    match ms.findSome? fun m => fault? m.1 m.2 with
    | some e => readMembers fields (named ms) seen r = .error e
    | none => ∃ seen' r', readMembers fields (named ms) seen r = .ok (seen', r') := by
  induction ms generalizing seen r with
  | nil => exact ⟨seen, r, rfl⟩
  | cons m ms ih =>
    obtain ⟨k, v⟩ := m
    rw [List.map_cons, List.nodup_cons] at hkeys
    rw [List.forall_mem_cons] at hskip hfresh
    rw [List.findSome?_cons]
    cases hfind : fields.find? (·.name == k) with
    | none =>
      simp only [htold.unknown k (ne_of_find? hfind) v, readMembers_unknown hfind hskip.1]
      exact ih hkeys.2 hskip.2 hfresh.2 r
    | some field =>
      have hfield := htold.known field (List.mem_of_find?_eq_some hfind) v
      rw [name_eq_of_find? hfind] at hfield
      rw [readMembers_known hfind hfresh.1]
      -- a member without a fault can be set, whatever the record holds by then
      cases hfault : fault? k v with
      | some e =>
        simp only [hfault] at hfield ⊢
        rw [hfield r]
        rfl
      | none =>
        simp only [hfault] at hfield ⊢
        obtain ⟨r', hset⟩ := hfield r
        rw [hset]
        refine ih hkeys.2 hskip.2 (fun m hm => ?_) r'
        have hkey : m.1 ∈ ms.map Prod.fst := List.mem_map_of_mem hm
        rw [List.mem_cons, not_or]
        refine ⟨?_, hfresh.2 m hm⟩
        rintro rfl
        exact hkeys.1 hkey

/-- **What is wrong with an object that repeats no key**: the first member with a fault, or else the first
required field that is missing. -/
theorem read_eq_error_iff (htold : ToldBy fault? format.fields)
    (hrecord : Source.record format.name v = .ok (.named (named ms) none)) (hkeys : (ms.map Prod.fst).Nodup)
    (hskip : ∀ m ∈ ms, Source.skip m.2 = .ok ()) {e : ReadError} :
    format.read v = .error e ↔
      (ms.findSome? fun m => fault? m.1 m.2) = some e ∨
      (ms.findSome? fun m => fault? m.1 m.2) = none ∧
        ∃ name, missingGiven? (List.lookup · ms) format.fields = some name ∧ e = .missingField name := by
  have hmembers := readMembers_told htold hkeys hskip (fun _ _ => List.not_mem_nil) format.blank
  rw [read_named hrecord]
  -- the first member that reads wrong is blamed; only when all read well can a field be missing
  cases hfault : ms.findSome? fun m => fault? m.1 m.2 with
  | some f =>
    simp only [hfault] at hmembers
    rw [hmembers]
    show Except.error f = Except.error e ↔ _
    simp
  | none =>
    simp only [hfault] at hmembers
    obtain ⟨seen, r', hmembers⟩ := hmembers
    rw [hmembers, ← missing?_of_readMembers hmembers]
    show (match missing? format.fields seen with | some name => _ | none => _) = _ ↔ _
    cases missing? format.fields seen with
    | none => simp
    | some name =>
      simp only [reduceCtorEq, false_or, true_and, Except.error.injEq, Option.some.injEq, exists_eq_left']
      exact eq_comm

end Faults

end RecordFormat

end Members

end BookmarkSync.Codec
