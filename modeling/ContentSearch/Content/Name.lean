/-!
# Names of entries

A name may carry a namespace in front of a colon; what follows its last colon is the local name.
-/

namespace ContentSearch.Content

/-- What follows the last colon, or everything if there is none. -/
def localChars (cs : List Char) : List Char :=
  (cs.reverse.takeWhile (· != ':')).reverse

/-- The name without its namespace. -/
def localName (name : String) : String :=
  String.ofList (localChars name.toList)

/-- No colon is left in a local name. -/
theorem colon_not_mem_localChars (cs : List Char) : ':' ∉ localChars cs := by
  intro h
  rw [localChars, List.mem_reverse] at h
  have hall := List.all_eq_true.mp (List.all_takeWhile (p := (· != ':')) (l := cs.reverse)) _ h
  exact bne_iff_ne.mp hall rfl

/-- Read from its end, a text without a colon is taken as a whole. -/
theorem takeWhile_reverse_append {cs : List Char} (h : ':' ∉ cs) (rest : List Char) :
    (cs.reverse ++ rest).takeWhile (· != ':') = cs.reverse ++ rest.takeWhile (· != ':') := by
  refine List.takeWhile_append_of_pos fun c hc => ?_
  rw [List.mem_reverse] at hc
  exact bne_iff_ne.mpr fun hcc => h (hcc ▸ hc)

/-- What follows a colon and has none is the local name. -/
theorem localChars_append (front : List Char) {rest : List Char} (h : ':' ∉ rest) :
    localChars (front ++ ':' :: rest) = rest := by
  have hreverse : (front ++ ':' :: rest).reverse = rest.reverse ++ (':' :: front.reverse) := by
    simp
  rw [localChars, hreverse, takeWhile_reverse_append h]
  simp

/-- A text with a colon is a namespace, a colon and the local name. -/
theorem exists_eq_append_localChars {cs : List Char} (h : ':' ∈ cs) :
    ∃ front, cs = front ++ ':' :: localChars cs := by
  induction cs with
  | nil => cases h
  | cons c rest ih =>
    by_cases hrest : ':' ∈ rest
    · obtain ⟨front, hfront⟩ := ih hrest
      have hlocal : localChars (c :: rest) = localChars rest := by
        rw [hfront, ← List.cons_append, localChars_append _ (colon_not_mem_localChars rest)]
        exact (localChars_append _ (colon_not_mem_localChars rest)).symm
      exact ⟨c :: front, by rw [hlocal, List.cons_append, ← hfront]⟩
    · -- the first character is the only colon
      have hc : ':' = c := (List.mem_cons.mp h).resolve_right hrest
      have hlocal : localChars (c :: rest) = rest := hc ▸ localChars_append [] hrest
      exact ⟨[], by rw [hlocal, ← hc, List.nil_append]⟩

end ContentSearch.Content
