/-
# Texts that name metrics

A metric can be given as any value whose text, in capitals, is its name. An object of another
class may have any text. Of all other values texts are the only ones: the text of every other
value, members of the vocabulary of metrics apart, holds a character that is in no name, or
starts with one that starts no name.
-/

import VectorRequests.Param.Search
import VectorRequests.Proofs.Text.Integer
import VectorRequests.Proofs.Value.Text

namespace VectorRequests

open VectorRequests.Text

namespace Metric

theorem mem_all (m : Metric) : m ∈ all := by
  cases m <;> decide

theorem ofName?_eq_some_iff {s : String} {m : Metric} : ofName? s = some m ↔ s = m.name := by
  constructor
  · intro h
    have hfound := List.find?_some (show all.find? (·.name == s) = some m from h)
    exact (eq_of_beq hfound).symm
  · rintro rfl
    exact ofName?_name m

/-- A text that is not the name of a metric in letters of any case. -/
def NamesNone (s : String) : Prop :=
  ∀ m ∈ all, upperName s ≠ m.name

instance (s : String) : Decidable (NamesNone s) :=
  inferInstanceAs (Decidable (∀ m ∈ all, upperName s ≠ m.name))

/-- A character that is its own capital and is in no name. -/
def IsForeign (c : Char) : Prop :=
  upperChar c = [c] ∧ ∀ m ∈ all, c ∉ m.name.toList

instance (c : Char) : Decidable (IsForeign c) :=
  inferInstanceAs (Decidable (upperChar c = [c] ∧ ∀ m ∈ all, c ∉ m.name.toList))

theorem namesNone_of_mem {s : String} {c : Char} (hc : IsForeign c) (hmem : c ∈ s.toList) :
    NamesNone s := by
  intro m hm hname
  apply hc.2 m hm
  rw [← hname, upperName, String.toList_ofList, List.mem_flatMap]
  exact ⟨c, hmem, by rw [hc.1]; exact List.mem_singleton.mpr rfl⟩

/-- A character whose capitals start no name. -/
def StartsNone (c : Char) : Prop :=
  ∀ m ∈ all, ¬ upperChar c <+: m.name.toList

instance (c : Char) : Decidable (StartsNone c) :=
  inferInstanceAs (Decidable (∀ m ∈ all, ¬ upperChar c <+: m.name.toList))

theorem namesNone_of_head {s : String} {c : Char} (hc : StartsNone c)
    (hhead : s.toList.head? = some c) : NamesNone s := by
  intro m hm hname
  obtain ⟨rest, hs⟩ := List.head?_eq_some_iff.mp hhead
  apply hc m hm
  rw [← hname, upperName, String.toList_ofList, hs, List.flatMap_cons]
  exact List.prefix_append ..

/-! ## Numbers -/

theorem startsNone_digitChar {d : Nat} (h : d < 10) : StartsNone (digitChar d) := by
  have hall : ∀ d < 10, StartsNone (digitChar d) := by decide
  exact hall d h

theorem namesNone_int (i : Int) : NamesNone (Integer.write i) := by
  rw [Integer.write]
  split
  · apply namesNone_of_mem (c := '-') (by decide)
    simp
  · obtain ⟨d, ds, hds⟩ := List.exists_cons_of_ne_nil (Integer.digitsOf_ne_nil i.natAbs)
    have hd : d < 10 := Integer.lt_ten_of_mem_digitsOf (hds ▸ List.mem_cons_self ..)
    apply namesNone_of_head (startsNone_digitChar hd)
    rw [String.toList_ofList, Integer.writeNat, hds]
    rfl

theorem namesNone_bool (b : Bool) : NamesNone (writeBool b) := by
  cases b <;> decide

/-- The text of a float is a name of its own, or has a point or the sign of an exponent. -/
theorem namesNone_writeSigned {f : FloatFormat} {finite : Nat → List Char} (x : Binary f)
    (h : ∀ rank, ∃ c ∈ finite rank, IsForeign c) : NamesNone (x.writeSigned finite) := by
  cases x with
  | nan =>
      have hnan : NamesNone "nan" := by decide
      exact hnan
  | number negative r =>
      cases negative with
      | true =>
          apply namesNone_of_mem (c := '-') (by decide)
          simp [Binary.writeSigned]
      | false =>
          rw [Binary.writeSigned]
          by_cases hr : r.val = f.infinityRank
          · rw [if_pos hr]
            decide
          · rw [if_neg hr]
            obtain ⟨c, hmem, hc⟩ := h r.val
            exact namesNone_of_mem hc (by simpa using hmem)

theorem exists_foreign_positional (x : Decimal) : ∃ c ∈ Binary.positional x, IsForeign c :=
  ⟨'.', by simp [Binary.positional], by decide⟩

theorem exists_foreign_scientific (x : Decimal) : ∃ c ∈ Binary.scientific x, IsForeign c := by
  by_cases hpower : Binary.leadingPower x < 0
  · exact ⟨'-', by simp [Binary.scientific, Binary.writeExponent, hpower], by decide⟩
  · exact ⟨'+', by simp [Binary.scientific, Binary.writeExponent, hpower], by decide⟩

theorem namesNone_float {f : FloatFormat} (x : Binary f) : NamesNone x.write := by
  apply namesNone_writeSigned
  intro rank
  dsimp only
  split
  · exact exists_foreign_positional _
  · exact exists_foreign_scientific _

theorem namesNone_cell (t : ElementType) (c : t.Cell) : NamesNone (t.write c) := by
  cases t with
  | bool => exact namesNone_bool c
  | int f => exact namesNone_int _
  | float f =>
      apply namesNone_writeSigned (f := f)
      intro rank
      dsimp only
      split
      · exact exists_foreign_positional _
      · exact exists_foreign_scientific _

theorem bracket_mem_brackets {separator : List Char} {axis : Axis} {axes : List Axis}
    {indent width : Nat} {texts : List (List Char)} :
    '[' ∈ brackets separator (axis :: axes) indent width texts := by
  cases axes <;> simp [brackets]

theorem namesNone_tensor (t : Tensor) : NamesNone t.write := by
  rw [Tensor.write]
  split
  next hshape =>
    have hone : t.cells.length = 1 := by
      rw [t.length_cells, List.isEmpty_iff.mp hshape]
      rfl
    obtain ⟨c, hc⟩ := List.length_eq_one_iff.mp hone
    rw [hc]
    exact namesNone_cell t.type c
  next hshape =>
    apply namesNone_of_mem (c := '[') (by decide)
    rw [String.toList_ofList, Tensor.writeRows]
    split
    · simp
    · obtain ⟨count, rest, hrest⟩ := List.exists_cons_of_ne_nil (mt List.isEmpty_iff.mpr hshape)
      rw [hrest, List.map_cons]
      exact bracket_mem_brackets

/-! ## All other values -/

/-- What a text begins with is enough. -/
theorem mem_append_left {s t : String} {c : Char} (h : c ∈ s.toList) : c ∈ (s ++ t).toList := by
  rw [String.toList_append]
  exact List.mem_append_left _ h

theorem namesNone_of_bracket {s : String} (h : '(' ∈ s.toList) : NamesNone s :=
  namesNone_of_mem (by decide) h

theorem namesNone_bytes (bs : List UInt8) : NamesNone (Quoted.bytes bs) := by
  apply namesNone_of_head (c := 'b') (by decide)
  simp [Quoted.bytes]

theorem namesNone_quoteTuple (items : List String) : NamesNone (Value.quoteTuple items) := by
  unfold Value.quoteTuple
  split
  · exact namesNone_of_bracket (mem_append_left (mem_append_left (by decide)))
  · exact namesNone_of_bracket (mem_append_left (mem_append_left (by decide)))

theorem namesNone_quoteRange (start stop step : Int) :
    NamesNone (Value.quoteRange start stop step) :=
  namesNone_of_bracket (mem_append_left (mem_append_left (by decide)))

theorem namesNone_quoteVector (w : TargetVector) : NamesNone (Value.quoteVector w) := by
  unfold Value.quoteVector
  split
  · exact namesNone_of_bracket (mem_append_left (mem_append_left (by decide)))
  · exact namesNone_of_bracket (mem_append_left (mem_append_left (by decide)))

theorem namesNone_braces (s : String) : NamesNone ("\x7b" ++ s ++ "\x7d") :=
  namesNone_of_mem (c := '\x7b') (by decide) (mem_append_left (mem_append_left (by decide)))

theorem namesNone_set (xs : List Value) : NamesNone (Value.quote (.set xs)) := by
  cases xs with
  | nil =>
      show NamesNone "set()"
      decide
  | cons x xs =>
      exact namesNone_braces (", ".intercalate (Value.quoteAll (x :: xs)))

/-- Apart from objects of other classes, only texts are written as the name of a metric in
letters of any case. -/
theorem namesNone_write {v : Value} (htext : ∀ s, v ≠ .text s) (hmetric : ∀ m, v ≠ .metric m)
    (hobject : ∀ handle className plain quoted, v ≠ .object handle className plain quoted) :
    NamesNone v.write := by
  cases v with
  | object handle className plain quoted => exact absurd rfl (hobject _ _ _ _)
  | text s => exact absurd rfl (htext s)
  | metric m => exact absurd rfl (hmetric m)
  | null =>
      show NamesNone "None"
      decide
  | bool b => exact namesNone_bool b
  | int i => exact namesNone_int i
  | dataType | placeholderType | msgType | dslType => exact namesNone_int _
  | float x => exact namesNone_float x
  | sized type cell => exact namesNone_cell type cell
  | tensor t => exact namesNone_tensor t
  | bytes bs => exact namesNone_bytes bs
  | tuple xs => exact namesNone_quoteTuple (Value.quoteAll xs)
  | range start stop step => exact namesNone_quoteRange start stop step
  | vector w => exact namesNone_quoteVector w
  | set xs => exact namesNone_set xs
  | scalarKind k =>
      show NamesNone ("ScalarKind." ++ k.name)
      exact namesNone_of_mem (c := '.') (by decide) (mem_append_left (by decide))
  | list xs =>
      show NamesNone ("[" ++ ", ".intercalate (Value.quoteAll xs) ++ "]")
      exact namesNone_of_mem (c := '[') (by decide) (mem_append_left (mem_append_left (by decide)))
  | mapping entries => exact namesNone_braces (", ".intercalate (Value.quoteEntries entries))
  | buffer bs =>
      show NamesNone ("bytearray(" ++ Quoted.bytes bs ++ ")")
      exact namesNone_of_bracket (mem_append_left (mem_append_left (by decide)))
  | column handle name type values =>
      show NamesNone ("Field(name=" ++ Quoted.text name ++ ", data_type=" ++ Value.quoteType type ++
        ", values=" ++ Value.quoteTuple (Value.quoteAll values) ++ ")")
      apply namesNone_of_bracket
      iterate 6 apply mem_append_left
      decide
  | record kind attributes =>
      show NamesNone (kind.name ++ "(" ++
        ", ".intercalate (Value.quoteAttributes kind attributes) ++ ")")
      apply namesNone_of_bracket
      simp [String.toList_append]

end Metric

namespace SearchParam

/-- The metric that a value stands for: itself, or the one that a text, or the text of an object
of another class, names in letters of any case. -/
inductive Names : Value → Metric → Prop
  | member (m : Metric) : Names (.metric m) m
  | text {s : String} {m : Metric} (h : upperName s = m.name) : Names (.text s) m
  | object {handle : Nat} {className plain quoted : String} {m : Metric}
      (h : upperName plain = m.name) : Names (.object handle className plain quoted) m

/-- A value that is no metric itself is read by its text, which it must have. -/
theorem readMetric_of_hasText {v : Value} (hmetric : ∀ m, v ≠ .metric m)
    (htext : v.hasText = true) :
    readMetric v = match Metric.ofName? (upperName v.write) with
      | some m => .ok m
      | none => Error.refuse (.illegalMetric v) := by
  unfold readMetric
  split
  next m => exact absurd rfl (hmetric m)
  next =>
    rw [Value.plainText, Value.withText_of_hasText htext]
    rfl

theorem readMetric_of_not_hasText {v : Value} (htext : v.hasText = false) :
    readMetric v = Error.fail .badValue := by
  unfold readMetric
  split
  · cases htext
  · rw [Value.plainText, Value.withText_of_not_hasText htext]
    rfl

/-- A value that is no metric itself is read as the metric that its text names. -/
theorem readMetric_eq_ok_iff_write {v : Value} {m : Metric} (hmetric : ∀ k, v ≠ .metric k)
    (htext : v.hasText = true) : readMetric v = .ok m ↔ upperName v.write = m.name := by
  rw [readMetric_of_hasText hmetric htext, ← Metric.ofName?_eq_some_iff]
  cases Metric.ofName? (upperName v.write) with
  | none => simp [Error.refuse]
  | some k => simp

/-- A metric is read from the values that stand for it. -/
theorem readMetric_eq_ok_iff {v : Value} {m : Metric} : readMetric v = .ok m ↔ Names v m := by
  constructor
  · intro h
    by_cases hmetric : ∃ k, v = .metric k
    · obtain ⟨k, rfl⟩ := hmetric
      cases h
      exact .member m
    · have htext : v.hasText = true := by
        by_contra hnone
        rw [readMetric_of_not_hasText (Bool.not_eq_true _ ▸ hnone)] at h
        cases h
      have hname := (readMetric_eq_ok_iff_write (fun k hk => hmetric ⟨k, hk⟩) htext).mp h
      by_contra hnone
      refine Metric.namesNone_write ?_ ?_ ?_ m (Metric.mem_all m) hname
      · rintro s rfl
        exact hnone (.text hname)
      · rintro k rfl
        exact hmetric ⟨k, rfl⟩
      · rintro handle className plain quoted rfl
        exact hnone (.object hname)
  · intro h
    cases h with
    | member => rfl
    | text hname => exact (readMetric_eq_ok_iff_write (by simp) rfl).mpr hname
    | object hname => exact (readMetric_eq_ok_iff_write (by simp) rfl).mpr hname

/-- What stands for no metric is refused, if it has a text. -/
theorem refuses_readMetric {v : Value} (htext : v.hasText = true) : (readMetric v).Refuses := by
  by_cases hmetric : ∃ m, v = .metric m
  · obtain ⟨m, rfl⟩ := hmetric
    exact Outcome.refuses_ok _
  · rw [readMetric_of_hasText (fun m hm => hmetric ⟨m, hm⟩) htext]
    split
    · exact Outcome.refuses_ok _
    · exact Outcome.refuses_refuse _

end SearchParam

end VectorRequests
