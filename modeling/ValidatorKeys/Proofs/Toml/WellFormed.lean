import ValidatorKeys.Proofs.Decimal.Rounding
import ValidatorKeys.Toml.Document

/-!
# Well-formed values

What a document can hold: whole numbers of 64 bits, canonical floats, dates of the calendar and
times of the clock, and tables without a key that stands twice.  Every value that is read is so, and
so is every section at every step of its construction.

    readValue depth s = some (v, r) → v.WellFormed
    parse? text = some t            → no key of t stands twice, and its values are well-formed
-/

namespace ValidatorKeys.Toml

/-! ## Definitions -/

def Offset.Valid : Offset → Prop
  | .zulu => True
  | .minutes west amount => amount < 24 * 60 ∧ (west = true → amount ≠ 0)

/-- A date-time as reading gives it. -/
structure DateTime.Valid (d : DateTime) : Prop where
  date : ∀ x, d.date = some x → x.valid = true ∧ x.year < 10 ^ 4
  time : ∀ t, d.time = some t → t.valid = true ∧ t.nanosecond < 10 ^ 9
  offset : ∀ o, d.offset = some o → o.Valid ∧ d.date.isSome = true ∧ d.time.isSome = true
  some : d.date.isSome = true ∨ d.time.isSome = true

/-- A value that a document can hold. -/
inductive Value.WellFormed : Value → Prop
  | string (s : String) : WellFormed (.string s)
  | integer {n : Int} : -2 ^ 63 ≤ n → n < 2 ^ 63 → WellFormed (.integer n)
  | float {f : Binary64} : f.Canonical → WellFormed (.float f)
  | boolean (b : Bool) : WellFormed (.boolean b)
  | dateTime {d : DateTime} : d.Valid → WellFormed (.dateTime d)
  | array {vs : List Value} : (∀ v ∈ vs, WellFormed v) → WellFormed (.array vs)
  | table {fs : List (String × Value)} : (fs.map Prod.fst).Nodup → (∀ f ∈ fs, WellFormed f.2) →
      WellFormed (.table fs)

/-- An entry of a section that can be finished to a well-formed value. -/
inductive Entry.WellFormed : Entry → Prop
  | value {v : Value} : v.WellFormed → WellFormed (.value v)
  | table {implicit dotted : Bool} {fs : List (String × Entry)} : (fs.map Prod.fst).Nodup →
      (∀ f ∈ fs, WellFormed f.2) → WellFormed (.table implicit dotted fs)
  | tables {es : List (List (String × Entry))} :
      (∀ fs ∈ es, WellFormed (.table false false fs)) → WellFormed (.tables es)

/-- A section without a key that stands twice, nor one below it. -/
def Section.WellFormed (s : Section) : Prop := s.entry.WellFormed

/-- What a change behind a key does to a section: it makes the table of the key, or changes the one
that is there, or the last one of its array. -/
inductive Section.Modified (viaDots : Bool) (f : Section → Option Section) (key : String)
    (rest : List String) (s : Section) : Section → Prop
  | made {child : Section} : s.get? key = none →
      Section.modify viaDots f rest { implicit := true, dotted := viaDots } = some child →
      Modified viaDots f key rest s (s.push key child.entry)
  | table {implicit dotted : Bool} {fields : List (String × Entry)} {child : Section} :
      s.get? key = some (.table implicit dotted fields) → (viaDots = true → implicit = true) →
      Section.modify viaDots f rest ⟨implicit, dotted, fields⟩ = some child →
      Modified viaDots f key rest s (s.replace key child.entry)
  | element {elements : List (List (String × Entry))} {last : List (String × Entry)}
      {child : Section} : s.get? key = some (.tables elements) → elements.getLast? = some last →
      Section.modify viaDots f rest { fields := last } = some child →
      Modified viaDots f key rest s (s.replace key (.tables (elements.dropLast ++ [child.fields])))

/-! ## Sections -/

theorem Entry.WellFormed.tables_append {es : List (List (String × Entry))}
    {fs : List (String × Entry)} (hes : ∀ x ∈ es, WellFormed (.table false false x))
    (hfs : WellFormed (.table false false fs)) : WellFormed (.tables (es ++ [fs])) :=
  .tables (List.forall_mem_append.mpr ⟨hes, List.forall_mem_singleton.mpr hfs⟩)

namespace Section

theorem wellFormed_iff {s : Section} :
    s.WellFormed ↔ (s.fields.map Prod.fst).Nodup ∧ ∀ f ∈ s.fields, f.2.WellFormed := by
  constructor
  · intro h
    cases h with
    | table hnodup hfields => exact ⟨hnodup, hfields⟩
  · rintro ⟨hnodup, hfields⟩
    exact .table hnodup hfields

theorem get?_eq_none_iff {s : Section} {key : String} :
    s.get? key = none ↔ key ∉ s.fields.map Prod.fst := by
  unfold get?
  rw [Option.map_eq_none_iff, List.find?_eq_none, List.mem_map]
  constructor
  · rintro h ⟨f, hf, rfl⟩
    exact h f hf (beq_self_eq_true _)
  · intro h f hf hkey
    exact h ⟨f, hf, eq_of_beq hkey⟩

theorem mem_of_get? {s : Section} {key : String} {e : Entry} (h : s.get? key = some e) :
    (key, e) ∈ s.fields := by
  obtain ⟨⟨k, e'⟩, hf, rfl⟩ := Option.map_eq_some_iff.mp h
  have hkey := List.find?_some hf
  rw [beq_iff_eq] at hkey
  exact hkey ▸ List.mem_of_find?_eq_some hf

variable {s : Section} {key : String} {e : Entry}

theorem WellFormed.of_get? (hs : s.WellFormed) (h : s.get? key = some e) : e.WellFormed :=
  (wellFormed_iff.mp hs).2 _ (mem_of_get? h)

theorem WellFormed.push (hs : s.WellFormed) (hkey : s.get? key = none) (he : e.WellFormed) :
    (s.push key e).WellFormed := by
  obtain ⟨hnodup, hfields⟩ := wellFormed_iff.mp hs
  rw [get?_eq_none_iff] at hkey
  refine wellFormed_iff.mpr ⟨?_, fun f hf => ?_⟩
  · rw [Section.push, List.map_append, List.nodup_append]
    refine ⟨hnodup, List.nodup_singleton _, ?_⟩
    intro a ha b hb hab
    rw [List.map_singleton, List.mem_singleton] at hb
    rw [hab, hb] at ha
    exact hkey ha
  · rcases List.mem_append.mp hf with hf | hf
    · exact hfields f hf
    · rw [List.mem_singleton] at hf
      exact hf ▸ he

theorem map_fst_replace (s : Section) (key : String) (e : Entry) :
    (s.replace key e).fields.map Prod.fst = s.fields.map Prod.fst := by
  unfold replace
  rw [List.map_map]
  refine List.map_congr_left fun f _ => ?_
  by_cases h : f.1 = key
  · simp [h]
  · simp [h]

theorem WellFormed.replace (hs : s.WellFormed) (he : e.WellFormed) :
    (s.replace key e).WellFormed := by
  obtain ⟨hnodup, hfields⟩ := wellFormed_iff.mp hs
  refine wellFormed_iff.mpr ⟨by rwa [map_fst_replace], fun f hf => ?_⟩
  obtain ⟨g, hg, rfl⟩ := List.mem_map.mp hf
  by_cases h : g.1 = key
  · simpa [h] using he
  · simpa [h] using hfields g hg

theorem WellFormed.erase (hs : s.WellFormed) : (s.erase key).WellFormed := by
  obtain ⟨hnodup, hfields⟩ := wellFormed_iff.mp hs
  refine wellFormed_iff.mpr ⟨?_, fun f hf => hfields f (List.mem_of_mem_filter hf)⟩
  exact hnodup.sublist (List.filter_sublist.map _)

theorem get?_erase_self (s : Section) (key : String) : (s.erase key).get? key = none := by
  rw [get?_eq_none_iff, List.mem_map]
  rintro ⟨f, hf, rfl⟩
  have := List.of_mem_filter hf
  simp at this

theorem wellFormed_empty (implicit dotted : Bool) : WellFormed ⟨implicit, dotted, []⟩ :=
  .table List.nodup_nil (by simp)

theorem modified_of_modify {viaDots : Bool} {f : Section → Option Section} {rest : List String}
    {s' : Section} (h : Section.modify viaDots f (key :: rest) s = some s') :
    Modified viaDots f key rest s s' := by
  rw [Section.modify] at h
  split at h
  · next hkey =>
    obtain ⟨child, hchild, heq⟩ := Option.bind_eq_some_iff.mp h
    cases heq
    exact .made hkey hchild
  · cases h
  · next implicit dotted fields hkey =>
    split at h
    · cases h
    · next hguard =>
      obtain ⟨child, hchild, heq⟩ := Option.bind_eq_some_iff.mp h
      cases heq
      exact .table hkey (by simpa using hguard) hchild
  · next elements hkey =>
    split at h
    · cases h
    · next last hlast =>
      obtain ⟨child, hchild, heq⟩ := Option.bind_eq_some_iff.mp h
      cases heq
      exact .element hkey hlast hchild

/-- A change at the end of a path keeps a section well-formed when it does so there. -/
theorem WellFormed.modify {viaDots : Bool} {f : Section → Option Section} {path : List String}
    {s' : Section} (hf : ∀ t t', t.WellFormed → f t = some t' → t'.WellFormed)
    (hs : s.WellFormed) (h : Section.modify viaDots f path s = some s') : s'.WellFormed := by
  induction path generalizing s s' with
  | nil => exact hf s s' hs h
  | cons key rest ih =>
    cases modified_of_modify h with
    | made hkey hchild => exact hs.push hkey (ih (wellFormed_empty _ _) hchild)
    | table hkey _ hchild => exact hs.replace (ih (hs.of_get? hkey) hchild)
    | @element elements last child hkey hlast hchild =>
      cases hs.of_get? hkey with
      | tables helements =>
        have hlast' : WellFormed { fields := last } := helements last (List.mem_of_getLast? hlast)
        obtain ⟨hnodup, hfields⟩ := wellFormed_iff.mp (ih hlast' hchild)
        exact hs.replace (.tables_append (fun fs hfs => helements fs (List.dropLast_subset _ hfs))
          (.table hnodup hfields))

theorem WellFormed.define {path : List String} {v : Value} {s' : Section} (hs : s.WellFormed)
    (hv : v.WellFormed) (h : Section.define path key v s = some s') : s'.WellFormed := by
  refine hs.modify (fun t t' ht ht' => ?_) h
  split at ht'
  · cases ht'
  · split at ht'
    · cases ht'
    · next hkey =>
      cases ht'
      exact ht.push (by simpa using hkey) (.value hv)

theorem WellFormed.openTable {path : List String} {s' : Section} (hs : s.WellFormed)
    (h : Section.openTable path key s = some s') : s'.WellFormed := by
  refine hs.modify (fun t t' ht ht' => ?_) h
  split at ht'
  · next hkey =>
    cases ht'
    exact ht.push hkey (.table List.nodup_nil (by simp))
  · next fields hkey =>
    cases ht'
    refine ht.erase.push (get?_erase_self t key) ?_
    cases ht.of_get? hkey with
    | table hnodup hfields => exact .table hnodup hfields
  · cases ht'

theorem WellFormed.openElement {path : List String} {s' : Section} (hs : s.WellFormed)
    (h : Section.openElement path key s = some s') : s'.WellFormed := by
  have hempty : Entry.WellFormed (.table false false []) := .table List.nodup_nil (by simp)
  refine hs.modify (fun t t' ht ht' => ?_) h
  split at ht'
  · next hkey =>
    cases ht'
    have hone : Entry.WellFormed (.tables ([] ++ [[]])) := .tables_append (by simp) hempty
    exact ht.push hkey hone
  · next elements hkey =>
    cases ht'
    cases ht.of_get? hkey with
    | tables helements => exact ht.replace (.tables_append helements hempty)
  · cases ht'

end Section

theorem finishFields_eq_map (fs : List (String × Entry)) :
    finishFields fs = fs.map fun f => (f.1, f.2.toValue) := by
  induction fs with
  | nil => rw [finishFields, List.map_nil]
  | cons f fs ih => rw [finishFields, ih, List.map_cons]

theorem finishElements_eq_map (es : List (List (String × Entry))) :
    finishElements es = es.map fun fs => (Entry.table false false fs).toValue := by
  induction es with
  | nil => rw [finishElements, List.map_nil]
  | cons e es ih => rw [finishElements, ih, List.map_cons, Entry.toValue]

theorem map_fst_finishFields (fs : List (String × Entry)) :
    (finishFields fs).map Prod.fst = fs.map Prod.fst := by
  rw [finishFields_eq_map, List.map_map]
  rfl

theorem Entry.WellFormed.toValue {e : Entry} (h : e.WellFormed) : e.toValue.WellFormed := by
  induction h with
  | value hv => rwa [Entry.toValue]
  | table hnodup hfields ih =>
    rw [Entry.toValue]
    refine .table (by rwa [map_fst_finishFields]) fun f hf => ?_
    rw [finishFields_eq_map] at hf
    obtain ⟨g, hg, rfl⟩ := List.mem_map.mp hf
    exact ih g hg
  | tables helements ih =>
    rw [Entry.toValue, finishElements_eq_map]
    refine .array fun v hv => ?_
    obtain ⟨fs, hfs, rfl⟩ := List.mem_map.mp hv
    exact ih fs hfs

theorem Table.get?_cons (k : String) (v : Value) (t : Table) (key : String) :
    Table.get? ((k, v) :: t) key = if k = key then some v else t.get? key := by
  rw [Table.get?, List.find?_cons]
  by_cases h : k = key
  · rw [if_pos h, beq_iff_eq.mpr h]
    rfl
  · rw [if_neg h, beq_false_of_ne h]
    rfl

theorem Table.mem_of_get? {t : Table} {key : String} {v : Value} (h : t.get? key = some v) :
    (key, v) ∈ t := by
  obtain ⟨f, hf, rfl⟩ := Option.map_eq_some_iff.mp h
  have hkey := List.find?_some hf
  rw [beq_iff_eq] at hkey
  exact hkey ▸ List.mem_of_find?_eq_some hf

theorem Value.WellFormed.of_get? {t : Table} {key : String} {v : Value}
    (ht : Value.WellFormed (.table t)) (h : t.get? key = some v) : v.WellFormed := by
  cases ht with
  | table _ hvalues => exact hvalues _ (Table.mem_of_get? h)

theorem Section.WellFormed.toTable {s : Section} (h : s.WellFormed) :
    Value.WellFormed (.table s.toTable) := by
  have := Entry.WellFormed.toValue h
  rwa [Section.entry, Entry.toValue] at this

/-! ## Dates and times -/

theorem digitsValue_append_singleton (ds : List Char) (c : Char) :
    digitsValue (ds ++ [c]) = 10 * digitsValue ds + (c.toNat - 48) := by
  rw [digitsValue, List.foldl_append]
  rfl

theorem toNat_sub_lt_ten {c : Char} (h : c.isDigit = true) : c.toNat - 48 < 10 := by
  rw [Char.isDigit, Bool.and_eq_true, decide_eq_true_eq, decide_eq_true_eq] at h
  have h₂ : c.toNat ≤ 57 := h.2
  omega

theorem digitsValue_lt {ds : List Char} (h : ∀ c ∈ ds, c.isDigit = true) :
    digitsValue ds < 10 ^ ds.length := by
  induction ds using List.reverseRecOn with
  | nil => decide
  | append_singleton ds c ih =>
    have hds := ih fun d hd => h d (List.mem_append_left _ hd)
    have hc := toNat_sub_lt_ten (h c (by simp))
    rw [digitsValue_append_singleton, List.length_append, List.length_singleton, Nat.pow_succ]
    omega

theorem readDigits_lt {n m : Nat} {s r : List Char} (h : readDigits n s = some (m, r)) :
    m < 10 ^ n := by
  unfold readDigits at h
  dsimp only at h
  split at h
  · next hds =>
    cases h
    have := digitsValue_lt (List.all_eq_true.mp hds.2)
    rwa [hds.1] at this
  · cases h

theorem nanoseconds_lt {ds : List Char} (h : ∀ c ∈ ds, c.isDigit = true) :
    nanoseconds ds < 10 ^ 9 := by
  have hlen : (ds.take 9).length ≤ 9 := by simp
  have hlt : digitsValue (ds.take 9) < 10 ^ (ds.take 9).length :=
    digitsValue_lt fun c hc => h c (List.mem_of_mem_take hc)
  have hpow : (10 : Nat) ^ (ds.take 9).length * 10 ^ (9 - (ds.take 9).length) = 10 ^ 9 := by
    rw [← Nat.pow_add, Nat.add_sub_cancel' hlen]
  unfold nanoseconds
  simp only [Nat.pow_eq]
  calc digitsValue (ds.take 9) * 10 ^ (9 - (ds.take 9).length)
      < 10 ^ (ds.take 9).length * 10 ^ (9 - (ds.take 9).length) :=
        Nat.mul_lt_mul_of_pos_right hlt (Nat.pow_pos (by omega))
    _ = 10 ^ 9 := hpow

theorem readDate_valid {s r : List Char} {d : Date} (h : readDate s = some (d, r)) :
    d.valid = true ∧ d.year < 10 ^ 4 := by
  unfold readDate at h
  obtain ⟨⟨year, s₁⟩, hyear, h⟩ := Option.bind_eq_some_iff.mp h
  obtain ⟨s₂, -, h⟩ := Option.bind_eq_some_iff.mp h
  obtain ⟨⟨month, s₃⟩, -, h⟩ := Option.bind_eq_some_iff.mp h
  obtain ⟨s₄, -, h⟩ := Option.bind_eq_some_iff.mp h
  obtain ⟨⟨day, s₅⟩, -, h⟩ := Option.bind_eq_some_iff.mp h
  dsimp only at h
  split at h
  · next hvalid =>
    cases h
    exact ⟨hvalid, readDigits_lt hyear⟩
  · cases h

theorem readFraction_lt {s r : List Char} {n : Nat} (h : readFraction s = some (n, r)) :
    n < 10 ^ 9 := by
  unfold readFraction at h
  split at h
  · next r' =>
    dsimp only at h
    split at h
    · cases h
    · cases h
      refine nanoseconds_lt fun c hc => ?_
      exact List.all_eq_true.mp List.all_takeWhile c hc
  · cases h
    decide

theorem readTime_valid {s r : List Char} {t : Time} (h : readTime s = some (t, r)) :
    t.valid = true ∧ t.nanosecond < 10 ^ 9 := by
  unfold readTime at h
  obtain ⟨⟨hour, s₁⟩, -, h⟩ := Option.bind_eq_some_iff.mp h
  obtain ⟨s₂, -, h⟩ := Option.bind_eq_some_iff.mp h
  obtain ⟨⟨minute, s₃⟩, -, h⟩ := Option.bind_eq_some_iff.mp h
  obtain ⟨s₄, -, h⟩ := Option.bind_eq_some_iff.mp h
  obtain ⟨⟨second, s₅⟩, -, h⟩ := Option.bind_eq_some_iff.mp h
  obtain ⟨⟨fraction, s₆⟩, hfraction, h⟩ := Option.bind_eq_some_iff.mp h
  dsimp only at h
  split at h
  · next hvalid =>
    cases h
    exact ⟨hvalid, readFraction_lt hfraction⟩
  · cases h

theorem readOffset_valid {s r : List Char} {o : Offset} (h : readOffset s = some (some o, r)) :
    o.Valid := by
  unfold readOffset at h
  split at h
  · split at h
    · cases h
      trivial
    · split at h
      · obtain ⟨⟨hours, s₁⟩, -, h⟩ := Option.bind_eq_some_iff.mp h
        obtain ⟨s₂, -, h⟩ := Option.bind_eq_some_iff.mp h
        obtain ⟨⟨minutes, s₃⟩, -, h⟩ := Option.bind_eq_some_iff.mp h
        dsimp only at h
        split at h
        · next hrange =>
          cases h
          refine ⟨by omega, fun hwest => ?_⟩
          simp only [Bool.and_eq_true, bne_iff_ne] at hwest
          exact hwest.2
        · cases h
      · cases h
  · cases h

theorem readDateTime_valid {s r : List Char} {d : DateTime}
    (h : readDateTime s = some (d, r)) : d.Valid := by
  have hdate : ∀ {x : Date} {s r : List Char}, readDate s = some (x, r) →
      DateTime.Valid ⟨some x, none, none⟩ := by
    intro x s r hx
    refine ⟨fun y hy => ?_, by simp, by simp, Or.inl rfl⟩
    cases hy
    exact readDate_valid hx
  unfold readDateTime at h
  split at h
  · obtain ⟨⟨date, s₁⟩, hx, h⟩ := Option.bind_eq_some_iff.mp h
    dsimp only at h
    split at h
    · split at h
      · obtain ⟨⟨time, s₂⟩, ht, h⟩ := Option.bind_eq_some_iff.mp h
        obtain ⟨⟨offset, s₃⟩, ho, h⟩ := Option.bind_eq_some_iff.mp h
        cases h
        refine ⟨fun y hy => ?_, fun y hy => ?_, fun y hy => ⟨?_, rfl, rfl⟩, Or.inl rfl⟩
        · cases hy
          exact readDate_valid hx
        · cases hy
          exact readTime_valid ht
        · dsimp only at hy
          subst hy
          exact readOffset_valid ho
      · cases h
        exact hdate hx
    · cases h
      exact hdate hx
  · obtain ⟨⟨time, s₁⟩, ht, h⟩ := Option.bind_eq_some_iff.mp h
    cases h
    refine ⟨by simp, fun y hy => ?_, by simp, Or.inr rfl⟩
    cases hy
    exact readTime_valid ht

/-! ## Numbers -/

theorem integer?_wellFormed {negative : Bool} {m : Nat} {v : Value}
    (h : integer? negative m = some v) : v.WellFormed := by
  unfold integer? at h
  simp only [Nat.pow_eq] at h
  split at h
  · next hrange =>
    cases h
    cases negative with
    | true =>
      refine .integer ?_ ?_
      · simp only [if_true]
        omega
      · simp only [if_true]
        omega
    | false =>
      refine .integer ?_ ?_
      · simp only [Bool.false_eq_true, if_false]
        omega
      · simp only [Bool.false_eq_true, if_false, false_and, or_false] at hrange ⊢
        omega
  · cases h

theorem float?_wellFormed {negative : Bool} {whole fraction : List Char} {e : Int} {v : Value}
    (h : float? negative whole fraction e = some v) : v.WellFormed := by
  unfold float? at h
  dsimp only at h
  split at h
  · cases h
  · cases h
    exact .float (Binary64.canonical_ofDecimal _ _ _)

theorem readInBase_wellFormed {base : Nat} {s r : List Char} {v : Value}
    (h : readInBase base s = some (v, r)) : v.WellFormed := by
  unfold readInBase at h
  obtain ⟨⟨ds, s₁⟩, -, h⟩ := Option.bind_eq_some_iff.mp h
  obtain ⟨v', hv, h⟩ := Option.bind_eq_some_iff.mp h
  cases h
  exact integer?_wellFormed hv

theorem readDecimal_wellFormed {negative : Bool} {s r : List Char} {v : Value}
    (h : readDecimal negative s = some (v, r)) : v.WellFormed := by
  unfold readDecimal at h
  obtain ⟨⟨whole, s₁⟩, -, h⟩ := Option.bind_eq_some_iff.mp h
  dsimp only at h
  split at h
  · obtain ⟨⟨fraction, s₂⟩, -, h⟩ := Option.bind_eq_some_iff.mp h
    obtain ⟨⟨e, s₃⟩, -, h⟩ := Option.bind_eq_some_iff.mp h
    obtain ⟨v', hv, h⟩ := Option.bind_eq_some_iff.mp h
    cases h
    exact float?_wellFormed hv
  · split at h
    · obtain ⟨⟨e, s₂⟩, -, h⟩ := Option.bind_eq_some_iff.mp h
      obtain ⟨v', hv, h⟩ := Option.bind_eq_some_iff.mp h
      cases h
      exact float?_wellFormed hv
    · obtain ⟨v', hv, h⟩ := Option.bind_eq_some_iff.mp h
      cases h
      exact integer?_wellFormed hv
  · obtain ⟨v', hv, h⟩ := Option.bind_eq_some_iff.mp h
    cases h
    exact integer?_wellFormed hv

theorem readSigned_wellFormed {negative : Bool} {s r : List Char} {v : Value}
    (h : readSigned negative s = some (v, r)) : v.WellFormed := by
  unfold readSigned at h
  split at h
  · cases h
    exact .float trivial
  · cases h
    exact .float trivial
  · exact readDecimal_wellFormed h

theorem readNumber_wellFormed {s r : List Char} {v : Value} (h : readNumber s = some (v, r)) :
    v.WellFormed := by
  unfold readNumber at h
  split at h
  · exact readSigned_wellFormed h
  · exact readSigned_wellFormed h
  · exact readInBase_wellFormed h
  · exact readInBase_wellFormed h
  · exact readInBase_wellFormed h
  · exact readSigned_wellFormed h

/-! ## Values -/

theorem readPlain_wellFormed {s r : List Char} {v : Value} (h : readPlain s = some (v, r)) :
    v.WellFormed := by
  unfold readPlain at h
  split at h
  · cases h
    exact .boolean _
  · cases h
    exact .boolean _
  · split at h
    · obtain ⟨⟨d, s₁⟩, hd, h⟩ := Option.map_eq_some_iff.mp h
      cases h
      exact .dateTime (readDateTime_valid hd)
    · exact readNumber_wellFormed h

section

variable {item : List Char → Option (Value × List Char)}
  (hitem : ∀ s v r, item s = some (v, r) → v.WellFormed)

include hitem

theorem readItems_wellFormed {n : Nat} {s r : List Char} {vs : List Value}
    (h : readItems item n s = some (vs, r)) : ∀ v ∈ vs, v.WellFormed := by
  induction n generalizing s vs r with
  | zero => cases h
  | succ n ih =>
    rw [readItems] at h
    split at h
    · cases h
      simp
    · obtain ⟨⟨v, s₁⟩, hv, h⟩ := Option.bind_eq_some_iff.mp h
      dsimp only at h
      have hv := hitem _ _ _ hv
      split at h
      · obtain ⟨⟨vs', s₂⟩, hvs, h⟩ := Option.bind_eq_some_iff.mp h
        cases h
        exact List.forall_mem_cons.mpr ⟨hv, ih hvs⟩
      · cases h
        exact List.forall_mem_singleton.mpr hv
      · cases h

theorem readInlineFields_wellFormed {n : Nat} {table t : Section} {s r : List Char}
    (ht : table.WellFormed) (h : readInlineFields item n table s = some (t, r)) :
    t.WellFormed := by
  induction n generalizing table s with
  | zero => cases h
  | succ n ih =>
    rw [readInlineFields] at h
    obtain ⟨⟨⟨path, key⟩, s₁⟩, -, h⟩ := Option.bind_eq_some_iff.mp h
    obtain ⟨s₂, -, h⟩ := Option.bind_eq_some_iff.mp h
    obtain ⟨⟨v, s₃⟩, hv, h⟩ := Option.bind_eq_some_iff.mp h
    obtain ⟨table', htable, h⟩ := Option.bind_eq_some_iff.mp h
    have ht' := ht.define (hitem _ _ _ hv) htable
    split at h
    · exact ih ht' h
    · cases h
      exact ht'
    · cases h

theorem readInlineTable_wellFormed {s r : List Char} {v : Value}
    (h : readInlineTable item s = some (v, r)) : v.WellFormed := by
  unfold readInlineTable at h
  split at h
  · cases h
    exact .table List.nodup_nil (by simp)
  · obtain ⟨⟨t, s₁⟩, ht, h⟩ := Option.map_eq_some_iff.mp h
    cases h
    have := readInlineFields_wellFormed hitem (Section.wellFormed_empty _ _) ht
    exact this.toTable

end

theorem wellFormed_of_readString {s r : List Char} {v : Value}
    (h : (readString s).map (fun x => (.string (String.ofList x.1), x.2)) = some (v, r)) :
    v.WellFormed := by
  obtain ⟨x, -, h⟩ := Option.map_eq_some_iff.mp h
  cases h
  exact .string _

/-- **Values that are read are well-formed.** -/
theorem readValue_wellFormed {depth : Nat} {s r : List Char} {v : Value}
    (h : readValue depth s = some (v, r)) : v.WellFormed := by
  induction depth generalizing s v r with
  | zero =>
    unfold readValue at h
    split at h
    · exact wellFormed_of_readString h
    · exact wellFormed_of_readString h
    · cases h
    · cases h
    · next heq => cases heq
    · next heq => cases heq
    · exact readPlain_wellFormed h
  | succ depth ih =>
    unfold readValue at h
    split at h
    · exact wellFormed_of_readString h
    · exact wellFormed_of_readString h
    · cases h
    · cases h
    · next heq =>
      cases heq
      obtain ⟨⟨vs, s₁⟩, hvs, h⟩ := Option.map_eq_some_iff.mp h
      cases h
      exact .array (readItems_wellFormed (fun _ _ _ => ih) hvs)
    · next heq =>
      cases heq
      exact readInlineTable_wellFormed (fun _ _ _ => ih) h
    · exact readPlain_wellFormed h

/-! ## Documents -/

def Statement.WellFormed : Statement → Prop
  | .definition _ _ v => v.WellFormed
  | _ => True

theorem readElement_wellFormed {s r : List Char} {st : Statement}
    (h : readElement s = some (st, r)) : st.WellFormed := by
  unfold readElement at h
  obtain ⟨⟨⟨path, key⟩, s₁⟩, -, h⟩ := Option.bind_eq_some_iff.mp h
  obtain ⟨s₂, -, h⟩ := Option.bind_eq_some_iff.mp h
  obtain ⟨s₃, -, h⟩ := Option.bind_eq_some_iff.mp h
  obtain ⟨s₄, -, h⟩ := Option.bind_eq_some_iff.mp h
  cases h
  trivial

theorem readHeader_wellFormed {s r : List Char} {st : Statement}
    (h : readHeader s = some (st, r)) : st.WellFormed := by
  unfold readHeader at h
  obtain ⟨⟨⟨path, key⟩, s₁⟩, -, h⟩ := Option.bind_eq_some_iff.mp h
  obtain ⟨s₂, -, h⟩ := Option.bind_eq_some_iff.mp h
  obtain ⟨s₃, -, h⟩ := Option.bind_eq_some_iff.mp h
  cases h
  trivial

theorem readDefinition_wellFormed {s r : List Char} {st : Statement}
    (h : readDefinition s = some (st, r)) : st.WellFormed := by
  unfold readDefinition at h
  obtain ⟨⟨⟨path, key⟩, s₁⟩, -, h⟩ := Option.bind_eq_some_iff.mp h
  obtain ⟨s₂, -, h⟩ := Option.bind_eq_some_iff.mp h
  obtain ⟨⟨v, s₃⟩, hv, h⟩ := Option.bind_eq_some_iff.mp h
  obtain ⟨s₄, -, h⟩ := Option.bind_eq_some_iff.mp h
  cases h
  exact readValue_wellFormed hv

theorem readStatements_wellFormed {n : Nat} {s : List Char} {sts : List Statement}
    (h : readStatements n s = some sts) : ∀ st ∈ sts, st.WellFormed := by
  induction n generalizing s sts with
  | zero => cases h
  | succ n ih =>
    have hcons : ∀ {first : Option (Statement × List Char)},
        (∀ st s₁, first = some (st, s₁) → st.WellFormed) →
        (first.bind fun x => (readStatements n x.2).bind fun sts => some (x.1 :: sts)) = some sts →
        ∀ st ∈ sts, st.WellFormed := by
      intro first hfirst h
      obtain ⟨⟨st, s₁⟩, hst, h⟩ := Option.bind_eq_some_iff.mp h
      obtain ⟨sts', hsts, h⟩ := Option.bind_eq_some_iff.mp h
      cases h
      exact List.forall_mem_cons.mpr ⟨hfirst _ _ hst, ih hsts⟩
    rw [readStatements] at h
    split at h
    · cases h
      simp
    · exact ih h
    · exact ih h
    · split at h
      · exact ih h
      · cases h
    · exact hcons (fun _ _ => readElement_wellFormed) h
    · exact hcons (fun _ _ => readHeader_wellFormed) h
    · exact hcons (fun _ _ => readDefinition_wellFormed) h

theorem runStatements_wellFormed {sts : List Statement} {current : List String} {root s : Section}
    (hsts : ∀ st ∈ sts, st.WellFormed) (hroot : root.WellFormed)
    (h : runStatements sts current root = some s) : s.WellFormed := by
  induction sts generalizing current root with
  | nil =>
    cases h
    exact hroot
  | cons st sts ih =>
    obtain ⟨hst, hrest⟩ := List.forall_mem_cons.mp hsts
    cases st with
    | header path key =>
      obtain ⟨root', hopen, h⟩ := Option.bind_eq_some_iff.mp h
      exact ih hrest (hroot.openTable hopen) h
    | element path key =>
      obtain ⟨root', hopen, h⟩ := Option.bind_eq_some_iff.mp h
      exact ih hrest (hroot.openElement hopen) h
    | definition path key v =>
      obtain ⟨root', hdefine, h⟩ := Option.bind_eq_some_iff.mp h
      exact ih hrest (hroot.modify (fun _ _ ht => ht.define hst) hdefine) h

/-- **Documents are well-formed**: no key of a document stands twice, at any depth, and its values
are in range. -/
theorem parse?_wellFormed {text : List Char} {t : Table} (h : parse? text = some t) :
    Value.WellFormed (.table t) := by
  unfold parse? at h
  obtain ⟨sts, hsts, h⟩ := Option.bind_eq_some_iff.mp h
  obtain ⟨root, hroot, h⟩ := Option.bind_eq_some_iff.mp h
  cases h
  have hempty : Section.WellFormed {} := Section.wellFormed_empty false false
  exact (runStatements_wellFormed (readStatements_wellFormed hsts) hempty hroot).toTable

end ValidatorKeys.Toml
