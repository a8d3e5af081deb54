import RequestBinding.Files.Tree

/-!
# Names in paths

The names of a path are its components, the parts between slashes that are not empty, and the name
`.` after a slash at the end. Walks go along names and directories are made for components, so the
two are compared here once, and joining a path with a name is said on components.

## Main statements

* `splitLast_eq_some_iff` — the last component of a path and those before it.
* `components_join` — a name that is joined to a path is its last component.
* `parent?_join` — the parent of a name in a directory is the directory.
-/

namespace RequestBinding

namespace Text

theorem endsWith_iff {text ending : String} :
    text.endsWith ending = true ↔ ending.toList <:+ text.toList := by
  rw [← String.endsWith_toSlice, String.Slice.endsWith_string_iff, String.copy_toSlice]

end Text

namespace FilePath

/-! ## Names -/

/-- What something in a directory can be called. -/
def IsName (name : String) : Prop :=
  name ≠ "" ∧ '/' ∉ name.toList ∧ name ≠ "." ∧ name ≠ ".."

instance (name : String) : Decidable (IsName name) := inferInstanceAs (Decidable (_ ∧ _))

/-! ## Components -/

/-- The parts of a path between slashes, as far as they are not empty. -/
def components (path : String) : List String :=
  ((Text.pieces '/' path.toList).filter (· ≠ [])).map String.ofList

theorem names_eq (path : String) :
    names path = components path ++ if path.endsWith "/" then ["."] else [] := by
  show (if path.endsWith "/" then components path ++ ["."] else components path) = _
  split <;> simp

theorem ne_empty_of_components {path : String} (h : components path ≠ []) :
    path.isEmpty = false := by
  refine Bool.eq_false_iff.mpr fun hempty => h ?_
  simp [String.isEmpty_iff.mp hempty, components, Text.pieces]

theorem ne_empty_of_mem_components {path name : String} (h : name ∈ components path) :
    name ≠ "" := by
  obtain ⟨piece, hpiece, rfl⟩ := List.mem_map.mp h
  have hne : piece ≠ [] := by simpa using (List.mem_filter.mp hpiece).2
  intro he
  exact hne (by simpa using congrArg String.toList he)

theorem slash_not_mem_of_mem_components {path name : String} (h : name ∈ components path) :
    '/' ∉ name.toList := by
  obtain ⟨piece, hpiece, rfl⟩ := List.mem_map.mp h
  simpa using Text.not_mem_of_mem_pieces (List.mem_filter.mp hpiece).1

theorem splitLast_eq_some_iff {path last : String} {before : List String} :
    FileTree.splitLast path = some (before, last) ↔ components path = before ++ [last] := by
  rw [FileTree.splitLast]
  split
  · next h =>
    have h : components path = [] := List.reverse_eq_nil_iff.mp h
    simp [h]
  · next name more h =>
    have h : components path = more.reverse ++ [name] := List.reverse_eq_cons_iff.mp h
    simp [h, and_comm]

/-! ## Joining -/

section Join

variable {name : String} (hname : name ≠ "") (hslash : '/' ∉ name.toList)

include hslash in
theorem isAbsolute_of_slash_not_mem : isAbsolute name = false := by
  rw [isAbsolute, String.startsWith_string_eq_false_iff]
  rintro ⟨more, h⟩
  exact hslash (by rw [← h]; simp)

include hname hslash in
theorem components_of_slash_not_mem : components name = [name] := by
  have hne : name.toList ≠ [] := by simpa using hname
  simp [components, Text.pieces_of_not_mem hslash, hne]

include hslash in
/-- Joined with a name, a path ends with it after a slash, which is there already or put there. -/
theorem join_cases (base : String) :
    (base = "" ∧ join base name = name) ∨
      ∃ outer, (join base name).toList = outer ++ '/' :: name.toList ∧
        (base.toList = outer ++ ['/'] ∨ base.toList = outer ∧ outer ≠ []) := by
  have habs := isAbsolute_of_slash_not_mem hslash
  by_cases hempty : base = ""
  · exact .inl ⟨hempty, by simp [join, hempty]⟩
  by_cases hend : base.endsWith "/"
  · obtain ⟨outer, houter⟩ := Text.endsWith_iff.mp hend
    exact .inr ⟨outer, by simp [join, habs, hempty, hend, ← houter], .inl (by simp [← houter])⟩
  · have hend : base.endsWith "/" = false := by simpa using hend
    exact .inr ⟨base.toList, by simp [join, habs, hempty, hend], .inr ⟨rfl, by simpa using hempty⟩⟩

theorem components_of_slash_end {base : String} {outer : List Char}
    (h : base.toList = outer ++ ['/']) : components base = components (String.ofList outer) := by
  simp [components, h, Text.pieces_append_cons, Text.pieces]

include hname hslash in
/-- A name that is joined to a path is its last component. -/
theorem components_join (base : String) :
    components (join base name) = components base ++ [name] := by
  have hne : name.toList ≠ [] := by simpa using hname
  rcases join_cases hslash base with ⟨rfl, h⟩ | ⟨outer, h, hbase⟩
  · rw [h, components_of_slash_not_mem hname hslash]
    simp [components, Text.pieces]
  · have hjoin : components (join base name) = components (String.ofList outer) ++ [name] := by
      simp [components, h, Text.pieces_append_cons, Text.pieces_of_not_mem hslash, hne]
    rcases hbase with hbase | ⟨rfl, -⟩
    · rw [hjoin, components_of_slash_end hbase]
    · rw [hjoin, String.ofList_toList]

include hname hslash in
theorem endsWith_slash_join (base : String) : (join base name).endsWith "/" = false := by
  have hne : name.toList ≠ [] := by simpa using hname
  rw [Bool.eq_false_iff, Ne, Text.endsWith_iff]
  rintro ⟨before, h⟩
  have hlast : (join base name).toList.getLast? = name.toList.getLast? := by
    rcases join_cases hslash base with ⟨-, h⟩ | ⟨outer, h, -⟩
    · rw [h]
    · simp [h, List.getLast?_append, List.getLast?_cons_of_ne_nil hne,
        List.getLast?_eq_some_getLast hne]
  rw [← h] at hlast
  exact hslash (List.mem_of_getLast? (hlast.symm.trans (by simp)))

include hslash in
theorem isAbsolute_join (base : String) : isAbsolute (join base name) = isAbsolute base := by
  rcases join_cases hslash base with ⟨rfl, h⟩ | ⟨outer, h, hbase⟩
  · rw [h, isAbsolute_of_slash_not_mem hslash]
    decide
  · rw [isAbsolute, isAbsolute, Bool.eq_iff_iff, String.startsWith_string_iff,
      String.startsWith_string_iff, h]
    rcases hbase with hbase | ⟨hbase, hne⟩
    · rw [hbase]
      cases outer <;> simp
    · rw [hbase]
      cases outer with
      | nil => exact absurd rfl hne
      | cons c cs => simp

end Join

/-! ## Parents -/

section Parent

variable {base name : String} (hbase : IsName base)

include hbase in
theorem join_of_isName (hslash : '/' ∉ name.toList) : join base name = base ++ "/" ++ name := by
  have hempty : base.isEmpty = false := by simpa using hbase.1
  have hend : base.endsWith "/" = false := by
    rw [Bool.eq_false_iff, Ne, Text.endsWith_iff]
    rintro ⟨outer, h⟩
    exact hbase.2.1 (by rw [← h]; simp)
  simp [join, isAbsolute_of_slash_not_mem hslash, hempty, hend]

/-- No slash and no dot is dropped after a name, whatever stands before it. -/
theorem dropTrailing_append {cs : List Char} (hne : cs ≠ []) (hslash : '/' ∉ cs)
    (hdot : cs ≠ ['.']) (before : List Char) : dropTrailing (cs ++ before) = cs ++ before := by
  match cs with
  | [c] =>
    have hc : c ≠ '/' ∧ c ≠ '.' := by simpa [eq_comm] using And.intro hslash hdot
    rw [List.singleton_append, dropTrailing]
    · exact fun _ h => hc.1 (List.cons.inj h).1
    · exact fun _ h => hc.2 (List.cons.inj h).1
  | c :: d :: more =>
    rw [List.cons_append, List.cons_append, dropTrailing]
    · exact fun _ h => hslash (by simp [(List.cons.inj h).1])
    · exact fun _ h => hslash (by simp [(List.cons.inj (List.cons.inj h).2).1])

theorem dropTrailing_of_isName (h : IsName name) (before : List Char) :
    dropTrailing (name.toList.reverse ++ before) = name.toList.reverse ++ before := by
  refine dropTrailing_append (by simpa using h.1) (by simpa using h.2.1) (fun hdot => ?_) before
  exact h.2.2.1 (String.toList_injective (List.reverse_eq_iff.mp hdot))

include hbase in
/-- The parent of a name in a directory is the directory. -/
theorem parent?_join (hname : IsName name) : parent? (join base name) = some base := by
  have hpath : (join base name).toList.reverse =
      name.toList.reverse ++ '/' :: base.toList.reverse := by
    rw [join_of_isName hbase hname.2.1]
    simp
  have hname' : ∀ c ∈ name.toList.reverse, (c != '/') = true := by
    intro c hc
    simpa using ne_of_mem_of_not_mem (List.mem_reverse.mp hc) hname.2.1
  have hdrop : dropTrailing ((name.toList.reverse ++ '/' :: base.toList.reverse).dropWhile
      (· != '/')) = base.toList.reverse := by
    rw [List.dropWhile_append_of_pos hname']
    simpa [dropTrailing] using dropTrailing_of_isName hbase []
  rw [parent?, hpath, dropTrailing_of_isName hname]
  split
  · next h => simp at h
  · simp only [hdrop]
    simp [hbase.1]

end Parent

end FilePath

end RequestBinding
