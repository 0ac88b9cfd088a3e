import FlowDecl.Endpoint.Headers
import Mathlib.Data.List.Induction
import Mathlib.Data.List.Nodup
import Mathlib.Tactic.SplitIfs

/-!
# Headers as maps

Headers are a map from names to values that remembers the order in which its names were first set.
Every name has one value, the one that was set last.  To set the headers of a map that was built
from some pairs is to set the pairs themselves, one after the other.
-/

namespace FlowDecl
namespace Endpoint
namespace Headers

/-- The names of headers, in order. -/
def names (headers : Headers) : List String :=
  headers.map (·.1)

theorem set_cons (key old name value : String) (rest : Headers) :
    set ((key, old) :: rest) name value =
      if key = name then (key, value) :: rest else (key, old) :: set rest name value := by
  rw [set]

/-! ## Setting one header -/

theorem names_set (headers : Headers) (name value : String) :
    (headers.set name value).names =
      if name ∈ headers.names then headers.names else headers.names ++ [name] := by
  induction headers with
  | nil => rfl
  | cons h rest ih =>
      obtain ⟨key, old⟩ := h
      rw [set_cons]
      by_cases hkey : key = name
      · rw [if_pos hkey, if_pos (by simp [names, hkey])]
        rfl
      · have hmem : name ∈ names ((key, old) :: rest) ↔ name ∈ names rest := by
          simp [names, Ne.symm hkey]
        have hcons :
            names ((key, old) :: set rest name value) = key :: (set rest name value).names :=
          rfl
        rw [if_neg hkey, hcons, ih]
        simp only [hmem]
        split <;> rfl

theorem mem_names_set (headers : Headers) (name value : String) :
    name ∈ (headers.set name value).names := by
  rw [names_set]
  split_ifs with h
  · exact h
  · simp

theorem mem_names_set_of_mem {headers : Headers} {other : String} (h : other ∈ headers.names)
    (name value : String) : other ∈ (headers.set name value).names := by
  rw [names_set]
  split_ifs
  · exact h
  · exact List.mem_append_left _ h

theorem nodup_names_set {headers : Headers} (h : headers.names.Nodup) (name value : String) :
    (headers.set name value).names.Nodup := by
  rw [names_set]
  split_ifs with hname
  · exact h
  · have happart : List.Disjoint headers.names [name] := by
      simpa using hname
    exact h.append (List.nodup_singleton name) happart

theorem lookup_pair (key value : String) (rest : Headers) (name : String) :
    List.lookup name ((key, value) :: rest) =
      if name = key then some value else List.lookup name rest := by
  rw [List.lookup_cons]
  by_cases hname : name = key
  · have heq : (name == key) = true := beq_iff_eq.mpr hname
    rw [heq, if_pos hname]
  · have hne : (name == key) = false := beq_eq_false_iff_ne.mpr hname
    rw [hne, if_neg hname]

theorem lookup_set (headers : Headers) (name value other : String) :
    (headers.set name value).lookup other =
      if other = name then some value else headers.lookup other := by
  induction headers with
  | nil => exact lookup_pair name value [] other
  | cons h rest ih =>
      obtain ⟨key, old⟩ := h
      rw [set_cons, lookup_pair]
      by_cases hkey : key = name
      · rw [if_pos hkey, lookup_pair, hkey]
        split_ifs <;> rfl
      · rw [if_neg hkey, lookup_pair, ih]
        by_cases hother : other = key
        · rw [if_pos hother, if_pos hother, if_neg (hother ▸ hkey)]
        · rw [if_neg hother, if_neg hother]

theorem set_set (headers : Headers) (name first second : String) :
    (headers.set name first).set name second = headers.set name second := by
  induction headers with
  | nil => simp [set]
  | cons h rest ih =>
      obtain ⟨key, old⟩ := h
      rw [set_cons]
      by_cases hkey : key = name
      · rw [if_pos hkey, set_cons, set_cons, if_pos hkey, if_pos hkey]
      · rw [if_neg hkey, set_cons, set_cons, if_neg hkey, if_neg hkey, ih]

/-- A name that is there already can be set before or after another one. -/
theorem set_comm {headers : Headers} {name : String} (h : name ∈ headers.names) {other : String}
    (hne : other ≠ name) (value second : String) :
    (headers.set other second).set name value = (headers.set name value).set other second := by
  induction headers with
  | nil => cases h
  | cons head rest ih =>
      obtain ⟨key, old⟩ := head
      rw [set_cons, set_cons]
      by_cases hkey : key = name
      · subst hkey
        rw [if_neg hne.symm, if_pos rfl, set_cons, set_cons, if_pos rfl, if_neg hne.symm]
      · have hrest : name ∈ names rest := by
          simpa [names, Ne.symm hkey] using h
        rw [if_neg hkey]
        by_cases hother : key = other
        · rw [if_pos hother, set_cons, set_cons, if_neg hkey, if_pos hother]
        · rw [if_neg hother, set_cons, set_cons, if_neg hkey, if_neg hother, ih hrest]

/-! ## Setting several headers -/

theorem setAll_cons (headers : Headers) (name value : String) (later : Headers) :
    headers.setAll ((name, value) :: later) = (headers.set name value).setAll later :=
  rfl

theorem setAll_append (headers later last : Headers) :
    headers.setAll (later ++ last) = (headers.setAll later).setAll last :=
  List.foldl_append

theorem nodup_names_setAll {headers : Headers} (h : headers.names.Nodup) (later : Headers) :
    (headers.setAll later).names.Nodup := by
  induction later generalizing headers with
  | nil => exact h
  | cons pair later ih => exact ih (nodup_names_set h _ _)

theorem nodup_names_ofList (pairs : List (String × String)) :
    (ofList pairs).names.Nodup := by
  have hnil : (names []).Nodup := List.nodup_nil
  exact nodup_names_setAll hnil pairs

/-- The value that was set last counts. -/
theorem lookup_setAll (headers later : Headers) (name : String) :
    (headers.setAll later).lookup name =
      (later.reverse.lookup name).or (headers.lookup name) := by
  induction later generalizing headers with
  | nil => rfl
  | cons pair later ih =>
      obtain ⟨key, value⟩ := pair
      rw [setAll_cons, ih, List.reverse_cons, List.lookup_append, Option.or_assoc, lookup_set,
        lookup_pair]
      split_ifs <;> rfl

theorem lookup_ofList (pairs : List (String × String)) (name : String) :
    (ofList pairs).lookup name = pairs.reverse.lookup name := by
  rw [ofList, lookup_setAll]
  exact Option.or_none

/-- The names stand in the order in which they were first set. -/
theorem names_ofList (pairs : List (String × String)) :
    (ofList pairs).names = (names pairs).eraseDups := by
  induction pairs using List.reverseRecOn with
  | nil => rfl
  | append_singleton pairs pair ih =>
      obtain ⟨name, value⟩ := pair
      have hset : ofList (pairs ++ [(name, value)]) = (ofList pairs).set name value :=
        setAll_append [] pairs [(name, value)]
      have hnames : names (pairs ++ [(name, value)]) = names pairs ++ [name] := by
        simp [names]
      rw [hset, names_set, ih, hnames, List.eraseDups_append, List.removeAll]
      by_cases hmem : name ∈ names pairs
      · simp [hmem]
      · simp [hmem, List.eraseDups_cons]

/-- A name that is there already keeps its place, so it can be set after others. -/
theorem setAll_set_of_notMem {headers later : Headers} {name : String} (h : name ∈ headers.names)
    (hlater : name ∉ names later) (value : String) :
    (headers.setAll later).set name value = (headers.set name value).setAll later := by
  induction later generalizing headers with
  | nil => rfl
  | cons pair later ih =>
      obtain ⟨other, second⟩ := pair
      obtain ⟨hne, hrest⟩ : name ≠ other ∧ name ∉ names later := by
        simpa [names] using hlater
      rw [setAll_cons, setAll_cons, ih (mem_names_set_of_mem h _ _) hrest, set_comm h hne.symm]

theorem setAll_set {later : Headers} (h : (names later).Nodup) (headers : Headers)
    (name value : String) :
    headers.setAll (later.set name value) = (headers.setAll later).set name value := by
  induction later generalizing headers with
  | nil => rfl
  | cons pair later ih =>
      obtain ⟨key, old⟩ := pair
      obtain ⟨hkey, hrest⟩ : key ∉ names later ∧ (names later).Nodup := List.nodup_cons.mp h
      rw [set_cons]
      by_cases hname : key = name
      · subst hname
        rw [if_pos rfl, setAll_cons, setAll_cons,
          setAll_set_of_notMem (mem_names_set headers key old) hkey, set_set]
      · rw [if_neg hname, setAll_cons, setAll_cons, ih hrest]

/-- Setting the headers of a map is setting the pairs that it was built from. -/
theorem setAll_ofList (headers : Headers) (pairs : List (String × String)) :
    headers.setAll (ofList pairs) = headers.setAll pairs := by
  induction pairs using List.reverseRecOn with
  | nil => rfl
  | append_singleton pairs pair ih =>
      obtain ⟨name, value⟩ := pair
      have hlast (hs : Headers) : hs.setAll (pairs ++ [(name, value)]) =
          (hs.setAll pairs).set name value := by
        rw [setAll_append]
        rfl
      rw [ofList, hlast, hlast, ← ofList, setAll_set (nodup_names_ofList pairs), ih]

/-! ## Entries -/

theorem mem_iff_lookup {headers : Headers} (h : headers.names.Nodup) {name value : String} :
    (name, value) ∈ headers ↔ headers.lookup name = some value := by
  induction headers with
  | nil => simp
  | cons pair rest ih =>
      obtain ⟨key, old⟩ := pair
      obtain ⟨hkey, hrest⟩ : key ∉ names rest ∧ (names rest).Nodup := List.nodup_cons.mp h
      rw [List.mem_cons, lookup_pair]
      by_cases hname : name = key
      · subst hname
        have hnot : (name, value) ∉ rest := fun hmem => hkey (List.mem_map_of_mem hmem)
        simp [hnot, eq_comm]
      · rw [if_neg hname, ← ih hrest]
        simp [hname]

end Headers
end Endpoint
end FlowDecl
