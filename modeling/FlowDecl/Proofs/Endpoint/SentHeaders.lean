import FlowDecl.Endpoint.Fetch
import FlowDecl.Proofs.Endpoint.HeaderMaps
import FlowDecl.Proofs.Outcome
import Mathlib.Data.List.Pairwise

/-!
# The headers of a request

A request carries the type of its content, a bearer token and the headers that the user gives as
texts, in this order.  Of the values that are supplied under one name, the request should have the
last one only, where names are the same if they differ in the case of ASCII letters only.

The headers compare names as they are written.  So they have the last value for each spelling, and
the last value for each name exactly if no name is supplied in two spellings.
-/

namespace FlowDecl
namespace Endpoint

open Outcome

/-! ## Names -/

/-- Names that differ in the case of ASCII letters only. -/
def SameName (a b : String) : Prop :=
  a.toList.map Char.toLower = b.toList.map Char.toLower

instance (a b : String) : Decidable (SameName a b) :=
  inferInstanceAs (Decidable (a.toList.map Char.toLower = b.toList.map Char.toLower))

theorem SameName.symm {a b : String} (h : SameName a b) : SameName b a :=
  Eq.symm h

/-- No name stands in two spellings. -/
def SpelledAlike (headers : Headers) : Prop :=
  ∀ a ∈ headers, ∀ b ∈ headers, SameName a.1 b.1 → a.1 = b.1

/-- The value that is supplied last under a name, in any spelling. -/
def lastValue? (supplied : Headers) (name : String) : Option String :=
  (supplied.reverse.find? fun h => SameName h.1 name).map (·.2)

/-- Headers with one entry for each name that is supplied, and the value that is supplied last. -/
structure LastWins (supplied headers : Headers) : Prop where
  unique : headers.Pairwise fun a b => ¬SameName a.1 b.1
  last : ∀ h ∈ headers, lastValue? supplied h.1 = some h.2
  complete : ∀ s ∈ supplied, ∃ h ∈ headers, SameName s.1 h.1

theorem find?_sameName {headers : Headers} {name : String}
    (h : ∀ a ∈ headers, SameName a.1 name → a.1 = name) :
    (headers.find? fun a => SameName a.1 name).map (·.2) = headers.lookup name := by
  induction headers with
  | nil => rfl
  | cons a rest ih =>
      obtain ⟨key, value⟩ := a
      obtain ⟨hkey, hrest⟩ := List.forall_mem_cons.mp h
      rw [Headers.lookup_pair, List.find?_cons]
      by_cases hname : name = key
      · have hsame : decide (SameName key name) = true := by
          rw [hname]
          exact decide_eq_true rfl
        rw [hsame, if_pos hname]
        rfl
      · have hother : decide (SameName key name) = false :=
          decide_eq_false fun hsame => hname (hkey hsame).symm
        rw [hother, if_neg hname]
        exact ih hrest

theorem exists_mem_ofList_iff {supplied : Headers} {name : String} :
    (∃ value, (name, value) ∈ Headers.ofList supplied) ↔ ∃ value, (name, value) ∈ supplied := by
  have hmem (value : String) : (name, value) ∈ Headers.ofList supplied ↔
      supplied.reverse.lookup name = some value := by
    rw [Headers.mem_iff_lookup (Headers.nodup_names_ofList supplied), Headers.lookup_ofList]
  simp only [hmem]
  constructor
  · rintro ⟨value, hvalue⟩
    obtain ⟨later, earlier, hsplit, -⟩ := List.lookup_eq_some_iff.mp hvalue
    have hmember : (name, value) ∈ supplied.reverse := by
      rw [hsplit]
      exact List.mem_append_right later List.mem_cons_self
    exact ⟨value, List.mem_reverse.mp hmember⟩
  · rintro ⟨value, hvalue⟩
    exact Option.isSome_iff_exists.mp
      (List.lookup_isSome_iff.mpr ⟨(name, value), List.mem_reverse.mpr hvalue, beq_self_eq_true _⟩)

/-- Headers keep the last value for each name exactly if each name has one spelling. -/
theorem lastWins_ofList_iff {supplied : Headers} :
    LastWins supplied (Headers.ofList supplied) ↔ SpelledAlike supplied := by
  have hnodup := Headers.nodup_names_ofList supplied
  constructor
  · intro h a ha b hb hsame
    obtain ⟨value, hvalue⟩ := exists_mem_ofList_iff.mpr ⟨a.2, ha⟩
    obtain ⟨other, hother⟩ := exists_mem_ofList_iff.mpr ⟨b.2, hb⟩
    by_contra hne
    have hpair : (a.1, value) ≠ (b.1, other) := fun heq => hne (Prod.mk.inj heq).1
    have hsymm : Std.Symm fun p q : String × String => ¬SameName p.1 q.1 :=
      ⟨fun _ _ hnot hpq => hnot hpq.symm⟩
    exact h.unique.forall hvalue hother hpair hsame
  · intro h
    have hsupplied {a : String × String} (ha : a ∈ Headers.ofList supplied) :
        ∃ value, (a.1, value) ∈ supplied := exists_mem_ofList_iff.mp ⟨a.2, ha⟩
    refine ⟨?_, ?_, ?_⟩
    · have happart := List.pairwise_map.mp hnodup
      refine happart.imp_of_mem ?_
      intro a b ha hb hne hsame
      obtain ⟨value, hvalue⟩ := hsupplied ha
      obtain ⟨other, hother⟩ := hsupplied hb
      exact hne (h (a.1, value) hvalue (b.1, other) hother hsame)
    · intro a ha
      obtain ⟨value, hvalue⟩ := hsupplied ha
      have halike : ∀ b ∈ supplied.reverse, SameName b.1 a.1 → b.1 = a.1 := by
        intro b hb hsame
        exact h b (List.mem_reverse.mp hb) (a.1, value) hvalue hsame
      rw [lastValue?, find?_sameName halike, ← Headers.lookup_ofList]
      exact (Headers.mem_iff_lookup hnodup).mp ha
    · intro s hs
      obtain ⟨value, hvalue⟩ := exists_mem_ofList_iff.mpr ⟨s.2, hs⟩
      exact ⟨(s.1, value), hvalue, rfl⟩

/-! ## What is supplied -/

/-- A text with a name before its first colon. -/
def IsHeaderText (text : String) : Prop :=
  ∃ header, splitHeader? text = some header ∧ header.1 ≠ ""

theorem readHeader_of_split {text : String} {header : String × String}
    (h : splitHeader? text = some header) (hname : header.1 ≠ "") :
    readHeader text = .ok header := by
  obtain ⟨name, value⟩ := header
  rw [readHeader, h]
  exact if_neg hname

theorem mapM_readHeader {texts : List String} (h : ∀ text ∈ texts, IsHeaderText text) :
    texts.mapM readHeader = .ok (texts.filterMap splitHeader?) := by
  induction texts with
  | nil => rfl
  | cons text rest ih =>
      obtain ⟨⟨header, hsplit, hname⟩, hrest⟩ := List.forall_mem_cons.mp h
      rw [List.mapM_cons, readHeader_of_split hsplit hname, ih hrest,
        List.filterMap_cons_some hsplit]
      rfl

theorem readHeaders_of_valid {texts : List String} (h : ∀ text ∈ texts, IsHeaderText text) :
    readHeaders texts = .ok (Headers.ofList (texts.filterMap splitHeader?)) := by
  rw [readHeaders, mapM_readHeader h]
  rfl

/-- The header of a token; an empty token has none. -/
def tokenHeader? (token : Option String) : Option (String × String) :=
  (token.filter (· != "")).map fun t => ("Authorization", "Bearer " ++ t)

/-- All names and values for a request, the ones that should win last. -/
def supplied (token : Option String) (texts : List String) : Headers :=
  ("Content-Type", "application/json") ::
    ((tokenHeader? token).toList ++ texts.filterMap splitHeader?)

theorem combineHeaders_token (headers : Headers) (token : Option String)
    (rest : List Credentials) :
    Credentials.combineHeaders headers
        (((token.filter (· != "")).map Credentials.bearer).toList ++ rest) =
      Credentials.combineHeaders (headers.setAll (tokenHeader? token).toList) rest := by
  rw [tokenHeader?]
  cases token.filter (· != "") with
  | none => rfl
  | some t => rw [Option.map_some, Option.toList_some, List.singleton_append,
      Credentials.combineHeaders, Credentials.toHeaders, Option.map_some, Option.toList_some]

/-- The headers of credentials are the token's and the texts' names and values, set one after the
other. -/
theorem exists_ofTexts (token : Option String) {texts : List String}
    (h : ∀ text ∈ texts, IsHeaderText text) :
    ∃ credentials, Credentials.ofTexts token texts = .ok credentials ∧
      credentials.toHeaders =
        Headers.ofList ((tokenHeader? token).toList ++ texts.filterMap splitHeader?) := by
  cases texts with
  | nil =>
      refine ⟨_, rfl, ?_⟩
      have hcombine := combineHeaders_token [] token []
      rw [List.append_nil] at hcombine
      rw [Credentials.toHeaders, hcombine, Credentials.combineHeaders, List.filterMap_nil,
        List.append_nil, Headers.ofList]
  | cons text rest =>
      have hread := readHeaders_of_valid h
      refine ⟨_, by rw [Credentials.ofTexts, hread]; rfl, ?_⟩
      rw [Credentials.toHeaders, combineHeaders_token, Credentials.combineHeaders,
        Credentials.combineHeaders, Credentials.toHeaders, Headers.setAll_ofList, Headers.ofList,
        Headers.setAll_append]

theorem headers_eq_ofList {client : Client} {token : Option String} {texts : List String}
    (h : client.credentials.toHeaders =
      Headers.ofList ((tokenHeader? token).toList ++ texts.filterMap splitHeader?)) :
    client.headers = Headers.ofList (supplied token texts) := by
  rw [Client.headers, h, Headers.setAll_ofList]
  rfl

/-- A request has the last value for each name as it is written, and so the last value for each
name exactly if no name is supplied in two spellings. -/
theorem headers_of_texts (token : Option String) {texts : List String}
    (h : ∀ text ∈ texts, IsHeaderText text) :
    ∃ credentials, Credentials.ofTexts token texts = .ok credentials ∧
      ∀ client : Client, client.credentials = credentials →
        (Headers.names client.headers).Nodup ∧
          (∀ name value, (name, value) ∈ client.headers ↔
            (supplied token texts).reverse.lookup name = some value) ∧
          (LastWins (supplied token texts) client.headers ↔
            SpelledAlike (supplied token texts)) := by
  obtain ⟨credentials, hread, hheaders⟩ := exists_ofTexts token h
  refine ⟨credentials, hread, ?_⟩
  rintro client rfl
  have hnodup := Headers.nodup_names_ofList (supplied token texts)
  rw [headers_eq_ofList hheaders]
  refine ⟨hnodup, ?_, lastWins_ofList_iff⟩
  intro name value
  rw [Headers.mem_iff_lookup hnodup, Headers.lookup_ofList]

/-- A header text for the credentials wins over a token. -/
theorem headers_of_tokenText :
    (∀ text ∈ ["Authorization: Token x"], IsHeaderText text) ∧
      ∃ credentials, Credentials.ofTexts (some "t") ["Authorization: Token x"] = .ok credentials ∧
        ∀ client : Client, client.credentials = credentials →
          (Headers.names client.headers).Nodup ∧
            (∀ name value, (name, value) ∈ client.headers ↔
              (supplied (some "t") ["Authorization: Token x"]).reverse.lookup name =
                some value) ∧
            (LastWins (supplied (some "t") ["Authorization: Token x"]) client.headers ↔
              SpelledAlike (supplied (some "t") ["Authorization: Token x"])) := by
  have hvalid : ∀ text ∈ ["Authorization: Token x"], IsHeaderText text := by
    intro text htext
    cases List.mem_singleton.mp htext
    exact ⟨("Authorization", "Token x"), by decide, by decide⟩
  exact ⟨hvalid, headers_of_texts (some "t") hvalid⟩

/-- A header in another spelling is sent beside the one that it should replace. -/
theorem exists_twice_supplied :
    ¬∀ (token : Option String) (texts : List String), (∀ text ∈ texts, IsHeaderText text) →
      ∀ client : Client, Credentials.ofTexts token texts = .ok client.credentials →
        LastWins (supplied token texts) client.headers := by
  intro h
  have hvalid : ∀ text ∈ ["content-type: text/plain"], IsHeaderText text := by
    intro text htext
    cases List.mem_singleton.mp htext
    exact ⟨("content-type", "text/plain"), by decide, by decide⟩
  have hread : Credentials.ofTexts none ["content-type: text/plain"] =
      .ok (.combined [.headers [("content-type", "text/plain")]]) := by
    rfl
  have hwins := h none _ hvalid
    ⟨"http://localhost/graphql", .combined [.headers [("content-type", "text/plain")]],
      .ofDecimal false 30 0⟩ hread
  have hpair := List.pairwise_pair.mp hwins.unique
  exact hpair (by decide)

end Endpoint
end FlowDecl
