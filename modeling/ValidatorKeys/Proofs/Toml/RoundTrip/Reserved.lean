import ValidatorKeys.Proofs.Toml.Framing.Statements
import ValidatorKeys.Proofs.Toml.RoundTrip.Values

/-!
# Date-times that stand by themselves

A date-time that stands by itself is written as an inline table under the reserved key.  The table
is read as it stands, and then taken for the date-time again:

    readValue n (v.text ++ r) = some (v.standing, r)      v.standing.withDateTimes? = some v
-/

namespace ValidatorKeys.Toml

/-! ## Definitions -/

/-- The value as which the text of a value that stands by itself is read. -/
def Value.standing : Value → Value
  | .dateTime d => .table [(dateTimeKey, .string d.text)]
  | v => v

/-! ## Items and fields -/

theorem mem_of_itemsWithDateTimes? {vs ws : List Value} (h : itemsWithDateTimes? vs = some ws) :
    ∀ w ∈ ws, ∃ v ∈ vs, v.withDateTimes? = some w := by
  induction vs generalizing ws with
  | nil =>
    rw [itemsWithDateTimes?] at h
    cases h
    simp
  | cons v vs ih =>
    rw [itemsWithDateTimes?] at h
    split at h
    · next w ws' hv hvs =>
      cases h
      intro x hx
      rcases List.mem_cons.mp hx with rfl | hx
      · exact ⟨v, List.mem_cons_self, hv⟩
      · obtain ⟨y, hy, hyx⟩ := ih hvs x hx
        exact ⟨y, List.mem_cons_of_mem _ hy, hyx⟩
    · cases h

theorem itemsWithDateTimes?_self {vs : List Value} (h : ∀ v ∈ vs, v.withDateTimes? = some v) :
    itemsWithDateTimes? vs = some vs := by
  induction vs with
  | nil => rw [itemsWithDateTimes?]
  | cons v vs ih =>
    rw [itemsWithDateTimes?, h v List.mem_cons_self, ih fun w hw => h w (List.mem_cons_of_mem _ hw)]

theorem mem_of_fieldsWithDateTimes? {fs gs : List (String × Value)}
    (h : fieldsWithDateTimes? fs = some gs) :
    ∀ g ∈ gs, ∃ f ∈ fs, f.1 = g.1 ∧ f.2.withDateTimes? = some g.2 := by
  induction fs generalizing gs with
  | nil =>
    rw [fieldsWithDateTimes?] at h
    cases h
    simp
  | cons f fs ih =>
    obtain ⟨k, v⟩ := f
    rw [fieldsWithDateTimes?] at h
    split at h
    · next w gs' hv hfs =>
      cases h
      intro g hg
      rcases List.mem_cons.mp hg with rfl | hg
      · exact ⟨(k, v), List.mem_cons_self, rfl, hv⟩
      · obtain ⟨f, hf, hfg⟩ := ih hfs g hg
        exact ⟨f, List.mem_cons_of_mem _ hf, hfg⟩
    · cases h

theorem map_fst_fieldsWithDateTimes? {fs gs : List (String × Value)}
    (h : fieldsWithDateTimes? fs = some gs) : gs.map Prod.fst = fs.map Prod.fst := by
  induction fs generalizing gs with
  | nil =>
    rw [fieldsWithDateTimes?] at h
    cases h
    rfl
  | cons f fs ih =>
    obtain ⟨k, v⟩ := f
    rw [fieldsWithDateTimes?] at h
    split at h
    · next w gs' hv hfs =>
      cases h
      rw [List.map_cons, List.map_cons, ih hfs]
    · cases h

/-- Fields of which each stands for another one. -/
theorem fieldsWithDateTimes?_map {fs : List (String × Value)} {f : Value → Value}
    (h : ∀ g ∈ fs, (f g.2).withDateTimes? = some g.2) :
    fieldsWithDateTimes? (fs.map fun g => (g.1, f g.2)) = some fs := by
  induction fs with
  | nil => rw [List.map_nil, fieldsWithDateTimes?]
  | cons g fs ih =>
    rw [List.map_cons, fieldsWithDateTimes?, h g List.mem_cons_self,
      ih fun x hx => h x (List.mem_cons_of_mem _ hx)]

theorem get?_of_fieldsWithDateTimes? {fs gs : Table} (h : fieldsWithDateTimes? fs = some gs)
    {key : String} {w : Value} (hw : gs.get? key = some w) :
    ∃ v, fs.get? key = some v ∧ v.withDateTimes? = some w := by
  induction fs generalizing gs with
  | nil =>
    rw [fieldsWithDateTimes?] at h
    cases h
    cases hw
  | cons f fs ih =>
    obtain ⟨k, v⟩ := f
    rw [fieldsWithDateTimes?] at h
    split at h
    · next v' gs' hv hfs =>
      cases h
      rw [Table.get?_cons] at hw ⊢
      by_cases hk : k = key
      · rw [if_pos hk] at hw ⊢
        cases hw
        exact ⟨v, rfl, hv⟩
      · rw [if_neg hk] at hw ⊢
        exact ih hfs hw
    · cases h

theorem fieldsWithDateTimes?_set {fs gs : Table} (h : fieldsWithDateTimes? fs = some gs)
    {key : String} {v w : Value} (hv : v.withDateTimes? = some w) :
    fieldsWithDateTimes? (fs.set key v) = some (gs.set key w) := by
  induction fs generalizing gs with
  | nil =>
    rw [fieldsWithDateTimes?] at h
    cases h
    exact fieldsWithDateTimes?.eq_def []
  | cons f fs ih =>
    obtain ⟨k, x⟩ := f
    rw [fieldsWithDateTimes?] at h
    split at h
    · next y gs' hx hfs =>
      cases h
      have hrest := ih hfs
      rw [Table.set] at hrest ⊢
      rw [List.map_cons, Table.set, List.map_cons]
      by_cases hk : k = key
      · simp only [hk, if_true]
        rw [fieldsWithDateTimes?, hv, hrest]
        rfl
      · simp only [hk, if_false]
        rw [fieldsWithDateTimes?, hx, hrest]
        rfl
    · cases h

/-! ## Values -/

/-- What a table can stand for. -/
theorem table_withDateTimes?_cases {fs : List (String × Value)} {w : Value}
    (h : (Value.table fs).withDateTimes? = some w) :
    (∃ s d, dateTimeOfText? s = some d ∧ w = .dateTime d) ∨
      ∃ gs, fieldsWithDateTimes? fs = some gs ∧ w = .table gs ∧
        (fs.map Prod.fst).head? ≠ some dateTimeKey := by
  cases fs with
  | nil =>
    rw [Value.withDateTimes?] at h
    cases h
    exact Or.inr ⟨[], by rw [fieldsWithDateTimes?], rfl, by simp⟩
  | cons f fs =>
    obtain ⟨k, v⟩ := f
    rw [Value.withDateTimes?.eq_def] at h
    dsimp only at h
    split at h
    · split at h
      · next s =>
        obtain ⟨d, hd, rfl⟩ := Option.map_eq_some_iff.mp h
        exact Or.inl ⟨_, d, hd, rfl⟩
      · cases h
    · next hk =>
      split at h
      · next v' fs' hv hfs =>
        cases h
        exact Or.inr ⟨(k, v') :: fs', by rw [fieldsWithDateTimes?, hv, hfs], rfl, by simp [hk]⟩
      · cases h

theorem table_withDateTimes? {fs gs : List (String × Value)}
    (h : fieldsWithDateTimes? fs = some gs) (hhead : (fs.map Prod.fst).head? ≠ some dateTimeKey) :
    (Value.table fs).withDateTimes? = some (.table gs) := by
  cases fs with
  | nil =>
    rw [fieldsWithDateTimes?] at h
    cases h
    rw [Value.withDateTimes?]
  | cons f fs =>
    obtain ⟨k, v⟩ := f
    have hk : k ≠ dateTimeKey := by simpa using hhead
    rw [fieldsWithDateTimes?] at h
    rw [Value.withDateTimes?.eq_def]
    dsimp only
    rw [if_neg hk]
    split at h
    · cases h
      rfl
    · cases h

theorem dateTimeOfText?_valid {s : List Char} {d : DateTime} (h : dateTimeOfText? s = some d) :
    d.Valid := by
  unfold dateTimeOfText? at h
  split at h
  · split at h
    · next hread =>
      cases h
      exact readDateTime_valid hread
    · cases h
  · cases h

theorem dateTimeOfText?_text {d : DateTime} (h : d.Valid) :
    dateTimeOfText? d.text.toList = some d := by
  have hstarts := startsDate_or_startsTime h []
  have hread := readDateTime_text h .nil
  rw [List.append_nil] at hstarts hread
  rw [dateTimeOfText?, if_pos hstarts, hread]

/-- **Taking date-times twice changes nothing**, and what comes out is well-formed. -/
theorem Value.WellFormed.withDateTimes? {v w : Value} (hv : v.WellFormed)
    (h : v.withDateTimes? = some w) : w.WellFormed ∧ w.withDateTimes? = some w := by
  induction hv generalizing w with
  | string s =>
    rw [Value.withDateTimes?.eq_def] at h
    cases h
    exact ⟨.string s, by rw [Value.withDateTimes?.eq_def]⟩
  | integer hlow hhigh =>
    rw [Value.withDateTimes?.eq_def] at h
    cases h
    exact ⟨.integer hlow hhigh, by rw [Value.withDateTimes?.eq_def]⟩
  | float hf =>
    rw [Value.withDateTimes?.eq_def] at h
    cases h
    exact ⟨.float hf, by rw [Value.withDateTimes?.eq_def]⟩
  | boolean b =>
    rw [Value.withDateTimes?.eq_def] at h
    cases h
    exact ⟨.boolean b, by rw [Value.withDateTimes?.eq_def]⟩
  | dateTime hd =>
    rw [Value.withDateTimes?.eq_def] at h
    cases h
    exact ⟨.dateTime hd, by rw [Value.withDateTimes?.eq_def]⟩
  | array _ ih =>
    rw [Value.withDateTimes?] at h
    obtain ⟨ws, hws, rfl⟩ := Option.map_eq_some_iff.mp h
    have hall : ∀ w ∈ ws, w.WellFormed ∧ w.withDateTimes? = some w := by
      intro w hw
      obtain ⟨x, hx, hxw⟩ := mem_of_itemsWithDateTimes? hws w hw
      exact ih x hx hxw
    refine ⟨.array fun w hw => (hall w hw).1, ?_⟩
    rw [Value.withDateTimes?, itemsWithDateTimes?_self fun w hw => (hall w hw).2]
    rfl
  | table hnodup _ ih =>
    rcases table_withDateTimes?_cases h with ⟨s, d, hd, rfl⟩ | ⟨gs, hgs, rfl, hhead⟩
    · exact ⟨.dateTime (dateTimeOfText?_valid hd), by rw [Value.withDateTimes?.eq_def]⟩
    · have hall : ∀ g ∈ gs, g.2.WellFormed ∧ g.2.withDateTimes? = some g.2 := by
        intro g hg
        obtain ⟨f, hf, -, hfg⟩ := mem_of_fieldsWithDateTimes? hgs g hg
        exact ih f hf hfg
      have hkeys := map_fst_fieldsWithDateTimes? hgs
      refine ⟨.table (hkeys ▸ hnodup) fun g hg => (hall g hg).1, ?_⟩
      have hself := fieldsWithDateTimes?_map (f := id) fun g hg => (hall g hg).2
      rw [List.map_id'' (by simp)] at hself
      exact table_withDateTimes? hself (hkeys ▸ hhead)

/-! ## Standing values -/

theorem Value.text_eq_render (v : Value) : v.text = v.standing.render := by
  cases v with
  | dateTime d =>
    rw [Value.text, Value.standing, Value.render, Value.render, renderFields]
    simp
  | string s => rfl
  | integer n => rfl
  | float f => rfl
  | boolean b => rfl
  | array vs => rfl
  | table fs => rfl

theorem Value.WellFormed.standing {v : Value} (hv : v.WellFormed) : v.standing.WellFormed := by
  cases hv with
  | @dateTime d hd =>
    refine .table (List.nodup_singleton _) fun f hf => ?_
    rw [List.mem_singleton.mp hf]
    exact .string d.text
  | string s => exact .string s
  | integer hlow hhigh => exact .integer hlow hhigh
  | float hf => exact .float hf
  | boolean b => exact .boolean b
  | array hvs => exact .array hvs
  | table hnodup hfs => exact .table hnodup hfs

theorem Value.depth_standing_le (v : Value) : v.standing.depth ≤ max v.depth 1 := by
  cases v with
  | dateTime d => simp [Value.standing, Value.depth, fieldsDepth]
  | string s => exact Nat.le_max_left _ _
  | integer n => exact Nat.le_max_left _ _
  | float f => exact Nat.le_max_left _ _
  | boolean b => exact Nat.le_max_left _ _
  | array vs => exact Nat.le_max_left _ _
  | table fs => exact Nat.le_max_left _ _

theorem Value.WellFormed.standing_withDateTimes? {v : Value} (hv : v.WellFormed)
    (h : v.withDateTimes? = some v) : v.standing.withDateTimes? = some v := by
  cases hv with
  | @dateTime d hd =>
    rw [Value.standing, Value.withDateTimes?.eq_def]
    dsimp only
    rw [if_pos rfl, dateTimeOfText?_text hd]
    rfl
  | string s => exact h
  | integer hlow hhigh => exact h
  | float hf => exact h
  | boolean b => exact h
  | array hvs => exact h
  | table hnodup hfs => exact h

/-! ## Definitions -/

/-- **A written definition is read back**, in front of what may end its line. -/
theorem readDefinition_written {s w : List Char} (hw : KeyForm s w) {v : Value}
    (hv : v.WellFormed) (hdepth : v.depth < nestingLimit) {r r' : List Char} (hr : Follows r)
    (hrest : readLineRest r = some r') :
    readDefinition (w ++ ' ' :: '=' :: ' ' :: (v.text ++ r)) =
      some (.definition [] (String.ofList s) v.standing, r') := by
  have hread : readValue (nestingLimit - 1) (v.text ++ r) = some (v.standing, r) := by
    have := v.depth_standing_le
    have hlimit : nestingLimit = 80 := rfl
    rw [v.text_eq_render]
    exact readValue_render hv.standing (by omega) hr
  have hspace : skipSpaces (' ' :: (v.text ++ r)) = v.text ++ r :=
    skipSpaces_of_readValue hread
  simp only [readDefinition, readKey_keyForm hw, readChar_cons, hspace, hread, hrest,
    Option.bind_eq_bind, Option.bind_some]

theorem readStatement_written {s w : List Char} (hw : KeyForm s w) {v : Value}
    (hv : v.WellFormed) (hdepth : v.depth < nestingLimit) {r r' : List Char} (hr : Follows r)
    (hrest : readLineRest r = some r') :
    readStatement (skipSpaces (w ++ ' ' :: '=' :: ' ' :: (v.text ++ r))) =
      some (.definition [] (String.ofList s) v.standing, r') := by
  have hread := readDefinition_written hw hv hdepth hr hrest
  rw [skipSpaces_keyForm hw, ← hread]
  -- no key starts with a bracket
  unfold readStatement
  split
  · next heq =>
    rw [heq] at hread
    cases hread
  · next heq =>
    rw [heq] at hread
    cases hread
  · rfl

end ValidatorKeys.Toml
