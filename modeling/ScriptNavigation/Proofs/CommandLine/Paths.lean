/-
# Names of files

A path without slashes is the name of a file or of a directory in the working directory, if it is
not empty and no dots: it has one part, it is resolved to that, and it is written as it is.

Main facts:

* `IsName.pathParts`, `IsName.ofPath`, `IsName.plainPath`: a name as a path.
* `IsName.entry`, `IsName.entryAlong`: a single file stands at its name.
-/
import ScriptNavigation.CommandLine.Files
import Mathlib.Data.String.Basic

namespace ScriptNavigation.CommandLine

/-- A text is not split where there is no separator. -/
theorem splitOnAux_of_not_mem {before after : List Char} (h : '/' ∉ after) :
    (String.ofList (before ++ after)).splitOnAux "/" 0 ⟨String.utf8Len before⟩ 0 [] =
      [String.ofList (before ++ after)] := by
  induction after generalizing before with
  | nil =>
    have hend := String.atEnd_of_valid before []
    have hall := String.extract_of_valid [] before []
    rw [String.splitOnAux.eq_def]
    simp only [List.append_nil, List.nil_append, String.utf8Len_nil, Nat.zero_add] at hend hall ⊢
    rw [if_pos (hend.mpr trivial)]
    exact congrArg (fun s => [s]) hall
  | cons c after ih =>
    have hnot : ¬String.Pos.Raw.atEnd (String.ofList (before ++ c :: after))
        ⟨String.utf8Len before⟩ = true := by
      rw [String.atEnd_of_valid]
      exact List.cons_ne_nil c after
    have hslash : (c == String.Pos.Raw.get "/" 0) = false := by
      rw [beq_eq_false_iff_ne]
      rintro rfl
      exact h List.mem_cons_self
    have hnext := String.next_of_valid before c after
    have ih := @ih (before ++ [c]) fun hmem => h (List.mem_cons_of_mem c hmem)
    rw [List.append_assoc, List.singleton_append, String.utf8Len_append, String.utf8Len_cons,
      String.utf8Len_nil, Nat.zero_add] at ih
    rw [String.splitOnAux.eq_def, if_neg hnot, String.get_of_valid, List.headD_cons, hslash,
      if_neg Bool.false_ne_true]
    have hsame : String.Pos.Raw.unoffsetBy ⟨String.utf8Len before⟩ 0 =
        ⟨String.utf8Len before⟩ := rfl
    rw [hsame, hnext]
    exact ih

/-- A text that names a file or a directory in the working directory. -/
structure IsName (name : String) : Prop where
  noSlash : '/' ∉ name.toList
  ne_empty : name ≠ ""
  ne_dot : name ≠ "."
  ne_dots : name ≠ ".."

/-- The files of a working directory in which there is one file. -/
def Files.single (name : String) (bytes : Json.Bytes) : Files where
  entries := [(⟨false, 0, [name]⟩, bytes)]

namespace IsName

variable {name : String} {bytes : Json.Bytes}

theorem pathParts (h : IsName name) : pathParts name = [name] := by
  have hsplit : name.splitOn "/" = [name] := by
    have hall := @splitOnAux_of_not_mem [] _ h.noSlash
    rw [List.nil_append, String.ofList_toList] at hall
    exact hall
  rw [CommandLine.pathParts, hsplit]
  simp [h.ne_empty, h.ne_dot]

theorem start (h : IsName name) : Resolved.start name = ⟨false, 0, []⟩ := by
  have hrelative : isAbsolute name = false := by
    rw [isAbsolute, beq_eq_false_iff_ne]
    intro hhead
    exact h.noSlash (List.mem_of_mem_head? hhead)
  rw [Resolved.start, hrelative]

theorem ofPath (h : IsName name) : Resolved.ofPath name = ⟨false, 0, [name]⟩ := by
  rw [Resolved.ofPath, h.pathParts, h.start]
  simp [Resolved.enter, h.ne_dots]

/-- A name is written as it is. -/
theorem plainPath (h : IsName name) : plainPath name = name := by
  have hslashes : leadingSlashes name = "" := by
    have hnone : name.toList.takeWhile (· == '/') = [] := by
      have hnoSlash := h.noSlash
      generalize name.toList = cs at hnoSlash
      cases cs with
      | nil => rfl
      | cons c cs =>
        rw [List.takeWhile_cons, if_neg]
        rw [beq_iff_eq]
        rintro rfl
        exact hnoSlash List.mem_cons_self
    rw [leadingSlashes, hnone]
    rfl
  rw [CommandLine.plainPath, hslashes, h.pathParts]
  simp [h.ne_empty]

/-- The file stands at its name. -/
theorem entry (h : IsName name) : (Files.single name bytes).entry (.ofPath name) = .file bytes := by
  rw [h.ofPath, Files.entry, Files.single]
  simp

theorem entryAlong (h : IsName name) :
    (Files.single name bytes).entryAlong name = .file bytes := by
  have htop : (Files.single name bytes).entry ⟨false, 0, []⟩ = .directory := by
    have hother : ((⟨false, 0, []⟩ : Resolved) == ⟨false, 0, [name]⟩) = false := by
      rw [beq_eq_false_iff_ne]
      exact nofun
    rw [Files.entry, Files.single, List.lookup_cons, hother]
    rfl
  have hfile : (Files.single name bytes).entry ⟨false, 0, [name]⟩ = .file bytes :=
    h.ofPath ▸ h.entry
  rw [Files.entryAlong, h.start, h.pathParts, Files.follow, htop]
  dsimp only
  rw [Files.follow]
  dsimp only
  rw [Resolved.enter, if_neg h.ne_dots]
  exact hfile

end IsName

end ScriptNavigation.CommandLine
