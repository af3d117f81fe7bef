-- The laws of lines of descent. Whatever loggers were called before, the way up from a logger comes to
-- the package, unless the name of the package is followed by two dots. From such a gap the way up may
-- lead past the package, and does so when it was not bridged before.
import DesktopPolicy.Log.Book
import Mathlib

namespace DesktopPolicy.Log

/-! ## Names without a gap -/

/-- Two dots stand behind the name of the package. -/
def HasGap (logger : String) : Prop := (package ++ "..").toList <+: logger.toList

instance : DecidablePred HasGap := fun logger =>
  inferInstanceAs (Decidable ((package ++ "..").toList <+: logger.toList))

theorem qualified_eq (name : String) :
    qualified name = package ∨
      ∃ further, (qualified name).toList = package.toList ++ '.' :: further := by
  unfold qualified
  split
  next h =>
    rcases Bool.or_eq_true_iff.mp h with hname | hbelow
    · exact .inl (eq_of_beq hname)
    · obtain ⟨further, hfurther⟩ := List.isPrefixOf_iff_prefix.mp hbelow
      refine .inr ⟨further, ?_⟩
      rw [← hfurther, String.toList_append]
      simp
  next => exact .inr ⟨name.toList, by simp⟩

theorem head?_ne_dot {logger : String} {further : List Char}
    (h : logger.toList = package.toList ++ '.' :: further) (hgap : ¬ HasGap logger) :
    further.head? ≠ some '.' := by
  intro hhead
  obtain ⟨rest, rfl⟩ : ∃ rest, further = '.' :: rest := by
    cases further with
    | nil => cases hhead
    | cons c rest => exact ⟨rest, by simpa using hhead⟩
  exact hgap ⟨rest, by simp [h]⟩

-- Behind a dot the way up may pass over one character. The induction takes two at a time, and where a
-- single one is left, it is not the dot in front of which the way would go past the package.
theorem leadsUp_of_getLast?_ne (called : String → Bool) :
    ∀ further : List Char, further.getLast? ≠ some '.' →
      leadsUp called (further ++ '.' :: package.toList.reverse) = true
  | [], _ => by simp [leadsUp, package]
  | [c], h => by
    have hdot : c ≠ '.' := by simpa using h
    simp [leadsUp, package, hdot]
  | c :: d :: rest, h => by
    have htail : (d :: rest).getLast? ≠ some '.' := by simpa using h
    have hrest : rest.getLast? ≠ some '.' := by
      intro hlast
      cases rest with
      | nil => cases hlast
      | cons e more => exact htail (by rwa [List.getLast?_cons_cons])
    have hone := leadsUp_of_getLast?_ne called (d :: rest) htail
    have htwo := leadsUp_of_getLast?_ne called rest hrest
    simp only [List.cons_append] at hone ⊢
    unfold leadsUp
    split
    · dsimp only
      split
      · rfl
      · split
        · exact hone
        · exact htwo
    · exact hone

/-- Whatever was called before, a logger without a gap in its name takes after the package. -/
theorem isHeir_qualified (called : String → Bool) {name : String} (h : ¬ HasGap (qualified name)) :
    isHeir called (qualified name) = true := by
  rcases qualified_eq name with hname | ⟨further, hfurther⟩
  · simp [isHeir, hname]
  · have hlast : further.reverse.getLast? ≠ some '.' := by
      rw [List.getLast?_reverse]
      exact head?_ne_dot hfurther h
    have hup := leadsUp_of_getLast?_ne called further.reverse hlast
    rw [isHeir, hfurther, List.reverse_append, List.reverse_cons, List.append_assoc,
      List.singleton_append, hup, Bool.or_true]

/-! ## Names with a gap -/

/-- What is longer than the name of the package is another name. -/
theorem ofList_ne_package (chars : List Char) (h : package.toList.length < chars.length) :
    (String.ofList chars.reverse == package) = false := by
  refine beq_false_of_ne ?_
  intro hname
  have hlength := congrArg (fun name => name.toList.length) hname
  simp only [String.toList_ofList, List.length_reverse] at hlength
  omega

theorem leadsUp_gap {called : String → Bool} (h : called (package ++ ".") = false) :
    leadsUp called ('.' :: '.' :: package.toList.reverse) = false := by
  have hupper : String.ofList ('.' :: package.toList.reverse).reverse = package ++ "." := by decide
  unfold leadsUp
  simp only [hupper, h]
  simp [leadsUp, package]

/-- Where a logger was called by the gap and none by its first dot, the way up from behind the gap
leads past the package. -/
theorem leadsUp_behind_gap {called : String → Bool} (hdot : called (package ++ ".") = false)
    (hgap : called (package ++ "..") = true) :
    ∀ further : List Char,
      leadsUp called (further ++ '.' :: '.' :: package.toList.reverse) = false
  | [] => leadsUp_gap hdot
  | [c] => by
    -- From a third dot the way up would pass over the gap, if no logger were called by it.
    have hupper : String.ofList ('.' :: '.' :: package.toList.reverse).reverse = package ++ ".." := by
      decide
    have hout := leadsUp_gap hdot
    simp only [List.singleton_append]
    unfold leadsUp
    simp only [hupper, hgap, hout]
    simp
  | c :: d :: rest => by
    have hone := leadsUp_behind_gap hdot hgap (d :: rest)
    have htwo := leadsUp_behind_gap hdot hgap rest
    have hne := ofList_ne_package (d :: (rest ++ '.' :: '.' :: package.toList.reverse)) (by
      simp only [List.length_cons, List.length_append, List.length_reverse]
      omega)
    simp only [List.cons_append] at hone ⊢
    unfold leadsUp
    simp only [hne, hone, htwo]
    simp

theorem not_isHeir_of_gap {called : String → Bool} (hdot : called (package ++ ".") = false)
    (hgap : called (package ++ "..") = true) {logger : String} (h : HasGap logger) :
    isHeir called logger = false := by
  obtain ⟨further, hfurther⟩ := h
  have hlogger : logger.toList.reverse =
      further.reverse ++ '.' :: '.' :: package.toList.reverse := by
    rw [← hfurther]
    simp
  have hne := ofList_ne_package logger.toList.reverse (by
    simp only [hlogger, List.length_cons, List.length_append, List.length_reverse]
    omega)
  rw [List.reverse_reverse, String.ofList_toList] at hne
  rw [isHeir, hne, hlogger, leadsUp_behind_gap hdot hgap, Bool.or_false]

end DesktopPolicy.Log
