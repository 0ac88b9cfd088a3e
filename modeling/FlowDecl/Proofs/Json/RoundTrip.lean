import FlowDecl.Proofs.Json.Tokens
import FlowDecl.Proofs.Outcome

/-!
# Written values

A value without floating-point numbers is read back as it was written, in either layout, if no
object in it has two members of one name.  A value that was read has no such object, because a
member that comes again takes the place of the earlier one.
-/

namespace FlowDecl
namespace Json

/-- A value without floating-point numbers. -/
inductive Value.IsFloatless : Value → Prop
  | null : IsFloatless .null
  | bool (b : Bool) : IsFloatless (.bool b)
  | int (n : Int) : IsFloatless (.int n)
  | str (s : String) : IsFloatless (.str s)
  | arr {items : List Value} (h : ∀ item ∈ items, IsFloatless item) : IsFloatless (.arr items)
  | obj {members : List (String × Value)} (h : ∀ m ∈ members, IsFloatless m.2) :
      IsFloatless (.obj members)

/-- A value in which no object has two members of one name. -/
inductive Value.HasDistinctNames : Value → Prop
  | null : HasDistinctNames .null
  | bool (b : Bool) : HasDistinctNames (.bool b)
  | int (n : Int) : HasDistinctNames (.int n)
  | float (x : Decimal.Binary64) : HasDistinctNames (.float x)
  | str (s : String) : HasDistinctNames (.str s)
  | arr {items : List Value} (h : ∀ item ∈ items, HasDistinctNames item) :
      HasDistinctNames (.arr items)
  | obj {members : List (String × Value)} (hnames : (members.map (·.1)).Nodup)
      (h : ∀ m ∈ members, HasDistinctNames m.2) : HasDistinctNames (.obj members)

namespace Value

theorem isSpace_of_mem_opening {layout : Layout} {depth : Nat} {c : Char}
    (h : c ∈ layout.opening depth) : Reader.isSpace c = true := by
  cases layout with
  | oneLine => cases h
  | indented =>
      rcases List.mem_cons.mp h with rfl | hblank
      · rfl
      · rw [List.eq_of_mem_replicate hblank]
        rfl

/-- Between two items stand a comma and blanks. -/
theorem exists_between (layout : Layout) (depth : Nat) :
    ∃ blanks, layout.between depth = ',' :: blanks ∧
      ∀ c ∈ blanks, Reader.isSpace c = true := by
  cases layout with
  | oneLine => exact ⟨[' '], rfl, by simp [Reader.isSpace]⟩
  | indented =>
      refine ⟨Layout.indented.opening depth, rfl, ?_⟩
      intro c hc
      exact isSpace_of_mem_opening hc

/-- A written value begins with a character that is no blank, closes nothing and is no mark. -/
theorem exists_write_eq_cons (layout : Layout) (depth : Nat) {v : Value} (h : v.IsFloatless) :
    ∃ c cs, write layout depth v = c :: cs ∧ Reader.isSpace c = false ∧ c ∉ [']', '\ufeff'] := by
  cases h with
  | null => exact ⟨'n', _, rfl, rfl, by decide⟩
  | bool b =>
      cases b with
      | true => exact ⟨'t', _, rfl, rfl, by decide⟩
      | false => exact ⟨'f', _, rfl, rfl, by decide⟩
  | int n =>
      obtain ⟨c, cs, htext, hspace, hmem⟩ := Reader.exists_toString_eq_cons n
      refine ⟨c, cs, htext, hspace, ?_⟩
      intro hc
      exact hmem (List.mem_cons_of_mem _ (List.mem_cons_of_mem _ (List.mem_cons_of_mem _ hc)))
  | str s => exact ⟨'"', _, rfl, rfl, by decide⟩
  | @arr items _ =>
      cases items with
      | nil => exact ⟨'[', _, rfl, rfl, by decide⟩
      | cons item items => exact ⟨'[', _, rfl, rfl, by decide⟩
  | @obj members _ =>
      cases members with
      | nil => exact ⟨'{', _, rfl, rfl, by decide⟩
      | cons m members => exact ⟨'{', _, rfl, rfl, by decide⟩

/-- A value that is read back from what is written of it, whatever comes after it. -/
def ReadsBack (layout : Layout) (v : Value) : Prop :=
  ∀ (depth fuel : Nat) (rest : List Char), Reader.EndsNumber rest →
    (write layout depth v).length ≤ fuel →
      Reader.readValue (fuel + 1) (write layout depth v ++ rest) = .ok (v, rest)

/-- A value that begins neither a text nor a container is read back as a whole. -/
theorem readsBack_plain {layout : Layout} {v : Value} {c : Char} {word : List Char}
    (hword : ∀ depth, write layout depth v = c :: word) (hc : c ∉ ['"', '{', '[', ']', '\ufeff'])
    (hplain : ∀ rest, Reader.EndsNumber rest →
      Reader.readPlain (c :: word ++ rest) = .ok (v, rest)) :
    ReadsBack layout v := by
  intro depth fuel rest hrest _
  simp only [List.mem_cons, List.not_mem_nil, or_false, not_or] at hc
  rw [hword, ← hplain rest hrest, List.cons_append, Reader.readValue.eq_def]
  simp only
  split
  next heq =>
    cases heq
    exact absurd rfl hc.1
  next heq =>
    cases heq
    exact absurd rfl hc.2.1
  next heq =>
    cases heq
    exact absurd rfl hc.2.2.1
  next => rfl

theorem readsBack_int (layout : Layout) (n : Int) : ReadsBack layout (.int n) := by
  obtain ⟨c, word, htext, -, hc⟩ := Reader.exists_toString_eq_cons n
  refine readsBack_plain (fun _ => htext) hc ?_
  intro rest hrest
  rw [← htext]
  exact Reader.readPlain_int n hrest

theorem readsBack_str (layout : Layout) (s : String) : ReadsBack layout (.str s) := by
  intro depth fuel rest _ _
  obtain ⟨cs, htext, hread⟩ := Reader.readText_writeText s rest
  change Reader.readValue (fuel + 1) (writeText s ++ rest) = _
  rw [htext, Reader.readValue.eq_def]
  simp only [hread]
  rfl

/-! ## Lists -/

/-- The bracket at the end of a container is found behind the blanks before it. -/
theorem skipSpace_opening (layout : Layout) (depth : Nat) {c : Char}
    (h : Reader.isSpace c = false) (rest : List Char) :
    Reader.skipSpace (layout.opening depth ++ c :: rest) = c :: rest := by
  rw [Reader.skipSpace_append fun d hd => isSpace_of_mem_opening hd]
  exact Reader.skipSpace_cons_of_not_space h rest

/-- The blanks before a value are skipped. -/
theorem skipSpace_write (layout : Layout) (depth : Nat) {v : Value} (h : v.IsFloatless)
    {blanks : List Char} (hblanks : ∀ c ∈ blanks, Reader.isSpace c = true) (rest : List Char) :
    Reader.skipSpace (blanks ++ (write layout depth v ++ rest)) = write layout depth v ++ rest := by
  obtain ⟨c, cs, hwrite, hspace, -⟩ := exists_write_eq_cons layout depth h
  rw [Reader.skipSpace_append hblanks, hwrite]
  exact Reader.skipSpace_cons_of_not_space hspace _

theorem endsNumber_opening (layout : Layout) (depth : Nat) {c : Char}
    (h : Reader.continuesNumber c = false) (rest : List Char) :
    Reader.EndsNumber (layout.opening depth ++ c :: rest) :=
  Reader.EndsNumber.append (fun _ hd => isSpace_of_mem_opening hd) (Reader.endsNumber_cons.mpr h)

/-- The last item of a list. -/
theorem readItems_last {layout : Layout} {item : Value} (hback : ReadsBack layout item)
    {depth fuel : Nat} {cs rest : List Char} (hcs : Reader.EndsNumber cs)
    (hclose : Reader.skipSpace cs = ']' :: rest)
    (hfuel : (write layout depth item).length ≤ fuel) (done : List Value) :
    Reader.readItems (fuel + 2) done (write layout depth item ++ cs) =
      .ok (.arr (done.reverse ++ [item]), rest) := by
  rw [Reader.readItems, hback depth fuel cs hcs hfuel]
  simp only [bind, Except.bind, hclose, List.reverse_cons]
  rfl

/-- An item of a list that others come after. -/
theorem readItems_next {layout : Layout} {item : Value} (hback : ReadsBack layout item)
    {depth fuel : Nat} {cs rest : List Char} (hcs : Reader.EndsNumber cs)
    (hcomma : Reader.skipSpace cs = ',' :: rest)
    (hfuel : (write layout depth item).length ≤ fuel) (done : List Value) :
    Reader.readItems (fuel + 2) done (write layout depth item ++ cs) =
      Reader.readItems (fuel + 1) (item :: done) (Reader.skipSpace rest) := by
  rw [Reader.readItems, hback depth fuel cs hcs hfuel]
  simp only [bind, Except.bind, hcomma]

/-- The items of a list are read back one after the other. -/
theorem readItems_write {layout : Layout} {items : List Value} {item : Value}
    (hitems : ∀ v ∈ item :: items, v.IsFloatless ∧ ReadsBack layout v) (depth outer fuel : Nat)
    (hfuel : (write layout depth item ++ writeItems layout depth items).length + 2 ≤ fuel)
    (done : List Value) (rest : List Char) :
    Reader.readItems fuel done (write layout depth item ++ (writeItems layout depth items ++
        (layout.opening outer ++ ']' :: rest))) =
      .ok (.arr (done.reverse ++ item :: items), rest) := by
  rw [List.length_append] at hfuel
  obtain ⟨fuel, rfl⟩ := Nat.exists_eq_add_of_le' (show 2 ≤ fuel by omega)
  have hback := (hitems item List.mem_cons_self).2
  induction items generalizing item done fuel with
  | nil =>
      rw [writeItems, List.nil_append]
      exact readItems_last hback (endsNumber_opening layout outer rfl rest)
        (skipSpace_opening layout outer rfl rest) (by omega) done
  | cons next items ih =>
      obtain ⟨blanks, hbetween, hblanks⟩ := exists_between layout depth
      have hnext := hitems next (List.mem_cons_of_mem _ List.mem_cons_self)
      rw [writeItems, hbetween] at hfuel ⊢
      simp only [List.length_append, List.length_cons] at hfuel
      simp only [List.cons_append, List.append_assoc]
      rw [readItems_next hback (Reader.endsNumber_cons.mpr rfl)
        (Reader.skipSpace_cons_of_not_space rfl _) (by omega),
        skipSpace_write layout depth hnext.1 hblanks]
      obtain ⟨fuel, rfl⟩ := Nat.exists_eq_add_of_le' (show 1 ≤ fuel by omega)
      rw [ih (fun v hv => hitems v (List.mem_cons_of_mem _ hv)) (item :: done) fuel
        (by omega) hnext.2]
      simp

theorem readsBack_arr {layout : Layout} {items : List Value}
    (hitems : ∀ v ∈ items, v.IsFloatless ∧ ReadsBack layout v) :
    ReadsBack layout (.arr items) := by
  intro depth fuel rest _ hfuel
  cases items with
  | nil => rfl
  | cons item items =>
      obtain ⟨c, cs, hwrite, hspace, hbracket⟩ :=
        exists_write_eq_cons layout (depth + 1) (hitems item List.mem_cons_self).1
      rw [write] at hfuel ⊢
      simp only [List.length_append, List.length_cons, List.length_nil] at hfuel
      simp only [List.cons_append, List.append_assoc, List.nil_append]
      rw [Reader.readValue.eq_def]
      simp only
      rw [skipSpace_write layout (depth + 1) (hitems item List.mem_cons_self).1
        fun d hd => isSpace_of_mem_opening hd]
      split
      next heq =>
        rw [hwrite] at heq
        rw [(List.cons.inj heq).1] at hbracket
        exact absurd List.mem_cons_self hbracket
      next =>
        have hlength : (write layout (depth + 1) item ++
            writeItems layout (depth + 1) items).length + 2 ≤ fuel := by
          rw [List.length_append]
          omega
        exact readItems_write hitems (depth + 1) depth fuel hlength [] rest

/-! ## Objects -/

/-- A new member is put at the end. -/
theorem put_of_notMem {members : List (String × Value)} {name : String} {value : Value}
    (h : name ∉ members.map (·.1)) : put members name value = members ++ [(name, value)] := by
  induction members with
  | nil => rfl
  | cons m members ih =>
      rw [List.map_cons, List.mem_cons, not_or] at h
      rw [put, if_neg (Ne.symm h.1), ih h.2]
      rfl

/-- A written member is read back, and what comes after it decides whether another one is read. -/
theorem readMembers_member {layout : Layout} {value : Value} (hvalue : value.IsFloatless)
    (hback : ReadsBack layout value) {depth fuel : Nat} {cs : List Char}
    (hcs : Reader.EndsNumber cs) (hfuel : (write layout depth value).length ≤ fuel)
    (key : String) (done : List (String × Value)) :
    Reader.readMembers (fuel + 2) done
        (writeText key ++ ':' :: ' ' :: (write layout depth value ++ cs)) =
      match Reader.skipSpace cs with
      | '}' :: after => .ok (.obj (put done key value), after)
      | ',' :: rest =>
        Reader.readMembers (fuel + 1) (put done key value) (Reader.skipSpace rest)
      | cs => .error ⟨.expectingComma, cs⟩ := by
  obtain ⟨text, hkey, hread⟩ :=
    Reader.readText_writeText key (':' :: ' ' :: (write layout depth value ++ cs))
  have hblank : ∀ c ∈ [' '], Reader.isSpace c = true := by
    simp [Reader.isSpace]
  have hskip := skipSpace_write layout depth hvalue hblank cs
  rw [List.singleton_append] at hskip
  rw [hkey, Reader.readMembers]
  simp only [hread, bind, Except.bind]
  rw [Reader.skipSpace_cons_of_not_space rfl]
  simp only [hskip, hback depth fuel cs hcs hfuel]
  rfl

/-- The last member of an object. -/
theorem readMembers_last {layout : Layout} {value : Value} (hvalue : value.IsFloatless)
    (hback : ReadsBack layout value) {depth fuel : Nat} {cs rest : List Char}
    (hcs : Reader.EndsNumber cs) (hclose : Reader.skipSpace cs = '}' :: rest)
    (hfuel : (write layout depth value).length ≤ fuel) (key : String)
    (done : List (String × Value)) :
    Reader.readMembers (fuel + 2) done
        (writeText key ++ ':' :: ' ' :: (write layout depth value ++ cs)) =
      .ok (.obj (put done key value), rest) := by
  rw [readMembers_member hvalue hback hcs hfuel, hclose]
  rfl

/-- A member of an object that others come after. -/
theorem readMembers_next {layout : Layout} {value : Value} (hvalue : value.IsFloatless)
    (hback : ReadsBack layout value) {depth fuel : Nat} {cs rest : List Char}
    (hcs : Reader.EndsNumber cs) (hcomma : Reader.skipSpace cs = ',' :: rest)
    (hfuel : (write layout depth value).length ≤ fuel) (key : String)
    (done : List (String × Value)) :
    Reader.readMembers (fuel + 2) done
        (writeText key ++ ':' :: ' ' :: (write layout depth value ++ cs)) =
      Reader.readMembers (fuel + 1) (put done key value) (Reader.skipSpace rest) := by
  rw [readMembers_member hvalue hback hcs hfuel, hcomma]
  rfl

/-- The quote of a name is no blank. -/
theorem skipSpace_writeText {blanks : List Char} (hblanks : ∀ c ∈ blanks, Reader.isSpace c = true)
    (s : String) (rest : List Char) :
    Reader.skipSpace (blanks ++ (writeText s ++ rest)) = writeText s ++ rest := by
  obtain ⟨cs, htext, -⟩ := Reader.readText_writeText s rest
  rw [Reader.skipSpace_append hblanks, htext]
  exact Reader.skipSpace_cons_of_not_space rfl _

theorem notMem_names {done members : List (String × Value)} {key : String} {value : Value}
    (h : ((done ++ (key, value) :: members).map (·.1)).Nodup) : key ∉ done.map (·.1) := by
  rw [List.map_append, List.nodup_append] at h
  intro hmem
  exact h.2.2 key hmem key List.mem_cons_self rfl

/-- The members of an object are read back one after the other. -/
theorem readMembers_write {layout : Layout} {members : List (String × Value)} {key : String}
    {value : Value}
    (hmembers : ∀ m ∈ (key, value) :: members, m.2.IsFloatless ∧ ReadsBack layout m.2)
    {done : List (String × Value)}
    (hnames : ((done ++ (key, value) :: members).map (·.1)).Nodup) (depth outer fuel : Nat)
    (hfuel : (write layout depth value ++ writeMembers layout depth members).length + 2 ≤ fuel)
    (rest : List Char) :
    Reader.readMembers fuel done (writeText key ++ ':' :: ' ' :: (write layout depth value ++
        (writeMembers layout depth members ++ (layout.opening outer ++ '}' :: rest)))) =
      .ok (.obj (done ++ (key, value) :: members), rest) := by
  rw [List.length_append] at hfuel
  obtain ⟨fuel, rfl⟩ := Nat.exists_eq_add_of_le' (show 2 ≤ fuel by omega)
  have hvalue : value.IsFloatless ∧ ReadsBack layout value := hmembers _ List.mem_cons_self
  induction members generalizing key value done fuel with
  | nil =>
      rw [writeMembers, List.nil_append,
        readMembers_last hvalue.1 hvalue.2 (endsNumber_opening layout outer rfl rest)
          (skipSpace_opening layout outer rfl rest) (by omega), put_of_notMem (notMem_names hnames)]
  | cons next members ih =>
      obtain ⟨name, item⟩ := next
      obtain ⟨blanks, hbetween, hblanks⟩ := exists_between layout depth
      have htail : ∀ m ∈ (name, item) :: members, m.2.IsFloatless ∧ ReadsBack layout m.2 :=
        fun m hm => hmembers m (List.mem_cons_of_mem _ hm)
      have hdone : done ++ (key, value) :: (name, item) :: members =
          (done ++ [(key, value)]) ++ (name, item) :: members := by
        rw [List.append_assoc, List.singleton_append]
      rw [writeMembers, hbetween] at hfuel ⊢
      simp only [List.length_append, List.length_cons, List.length_nil] at hfuel
      simp only [List.cons_append, List.append_assoc, List.nil_append]
      rw [readMembers_next hvalue.1 hvalue.2 (Reader.endsNumber_cons.mpr rfl)
        (Reader.skipSpace_cons_of_not_space rfl _) (by omega),
        skipSpace_writeText hblanks, put_of_notMem (notMem_names hnames)]
      obtain ⟨fuel, rfl⟩ := Nat.exists_eq_add_of_le' (show 1 ≤ fuel by omega)
      rw [hdone] at hnames ⊢
      exact ih htail hnames fuel (by omega) (htail _ List.mem_cons_self)

theorem readsBack_obj {layout : Layout} {members : List (String × Value)}
    (hnames : (members.map (·.1)).Nodup)
    (hmembers : ∀ m ∈ members, m.2.IsFloatless ∧ ReadsBack layout m.2) :
    ReadsBack layout (.obj members) := by
  intro depth fuel rest _ hfuel
  cases members with
  | nil => rfl
  | cons m members =>
      obtain ⟨key, value⟩ := m
      rw [write] at hfuel ⊢
      simp only [List.length_append, List.length_cons, List.length_nil] at hfuel
      simp only [List.cons_append, List.append_assoc, List.nil_append]
      rw [Reader.readValue.eq_def]
      simp only
      rw [skipSpace_writeText fun d hd => isSpace_of_mem_opening hd]
      split
      next heq =>
        cases heq
      next =>
        have hlength : (write layout (depth + 1) value ++
            writeMembers layout (depth + 1) members).length + 2 ≤ fuel := by
          rw [List.length_append]
          omega
        have hall : ((([] : List (String × Value)) ++ (key, value) :: members).map (·.1)).Nodup :=
          hnames
        exact readMembers_write hmembers hall (depth + 1) depth fuel hlength rest

/-! ## Values -/

/-- A value without floating-point numbers is read back from what is written of it. -/
theorem readsBack_of_isFloatless {layout : Layout} {v : Value} (hv : v.IsFloatless)
    (hnames : v.HasDistinctNames) : ReadsBack layout v := by
  induction hv with
  | null =>
      exact readsBack_plain (fun _ => rfl) (by decide) fun rest _ => Reader.readPlain_null rest
  | bool b =>
      cases b with
      | true =>
          exact readsBack_plain (fun _ => rfl) (by decide) fun rest _ => Reader.readPlain_true rest
      | false =>
          exact readsBack_plain (fun _ => rfl) (by decide) fun rest _ => Reader.readPlain_false rest
  | int n => exact readsBack_int layout n
  | str s => exact readsBack_str layout s
  | arr h ih =>
      cases hnames with
      | arr hitems => exact readsBack_arr fun v hv => ⟨h v hv, ih v hv (hitems v hv)⟩
  | obj h ih =>
      cases hnames with
      | obj hnodup hmembers =>
          exact readsBack_obj hnodup fun m hm => ⟨h m hm, ih m hm (hmembers m hm)⟩

end Value

/-- What is written of a value is read as that value, whatever blanks come after it. -/
theorem Reader.read_write {v : Value} (hv : v.IsFloatless) (hnames : v.HasDistinctNames)
    (layout : Value.Layout) {blanks : List Char} (hblanks : ∀ c ∈ blanks, isSpace c = true) :
    read (Value.write layout 0 v ++ blanks) = .ok v := by
  obtain ⟨c, cs, hwrite, hspace, hmark⟩ := Value.exists_write_eq_cons layout 0 hv
  have hends : EndsNumber blanks := by
    rw [← List.append_nil blanks]
    exact EndsNumber.append hblanks (by simp [EndsNumber])
  have hall : skipSpace blanks = [] := by
    rw [← List.append_nil blanks, skipSpace_append hblanks]
    rfl
  have hback : Value.ReadsBack layout v := Value.readsBack_of_isFloatless hv hnames
  have hread := hback 0 (2 * (Value.write layout 0 v ++ blanks).length) blanks hends
    (by rw [List.length_append]; omega)
  rw [hwrite, List.cons_append] at hread ⊢
  rw [read.eq_def]
  split
  next heq =>
    rw [(List.cons.inj heq).1] at hmark
    exact absurd (by decide) hmark
  next =>
    simp only [skipSpace_cons_of_not_space hspace, hread, bind, Except.bind, hall]
    rfl

/-! ## Values that were read -/

namespace Value

theorem mem_map_put_iff {members : List (String × Value)} {name key : String} {value : Value} :
    key ∈ (put members name value).map (·.1) ↔ key = name ∨ key ∈ members.map (·.1) := by
  induction members with
  | nil => simp [put]
  | cons m members ih =>
      obtain ⟨first, old⟩ := m
      rw [put]
      split
      next heq => simp [heq]
      next =>
        rw [List.map_cons, List.mem_cons, ih, List.map_cons, List.mem_cons]
        exact or_left_comm

theorem nodup_put {members : List (String × Value)} (h : (members.map (·.1)).Nodup)
    (name : String) (value : Value) : ((put members name value).map (·.1)).Nodup := by
  induction members with
  | nil => exact List.nodup_cons.mpr ⟨List.not_mem_nil, List.nodup_nil⟩
  | cons m members ih =>
      obtain ⟨first, old⟩ := m
      rw [List.map_cons, List.nodup_cons] at h
      rw [put]
      split
      next => exact List.nodup_cons.mpr h
      next hne =>
        refine List.nodup_cons.mpr ⟨?_, ih h.2⟩
        rw [mem_map_put_iff, not_or]
        exact ⟨hne, h.1⟩

theorem mem_put {members : List (String × Value)} {name : String} {value : Value}
    {m : String × Value} (h : m ∈ put members name value) : m.2 = value ∨ m ∈ members := by
  induction members with
  | nil =>
      rw [put, List.mem_singleton] at h
      exact Or.inl (congrArg Prod.snd h)
  | cons first members ih =>
      obtain ⟨key, old⟩ := first
      rw [put] at h
      split at h
      next =>
        rcases List.mem_cons.mp h with rfl | h
        · exact Or.inl rfl
        · exact Or.inr (List.mem_cons_of_mem _ h)
      next =>
        rcases List.mem_cons.mp h with rfl | h
        · exact Or.inr List.mem_cons_self
        · exact (ih h).imp_right (List.mem_cons_of_mem _)

theorem HasDistinctNames.put {members : List (String × Value)} {value : Value}
    (h : (Value.obj members).HasDistinctNames) (hvalue : value.HasDistinctNames) (name : String) :
    (Value.obj (put members name value)).HasDistinctNames := by
  cases h with
  | obj hnames hmembers =>
      refine .obj (nodup_put hnames name value) ?_
      intro m hm
      rcases mem_put hm with heq | hm
      · rw [heq]
        exact hvalue
      · exact hmembers m hm

theorem HasDistinctNames.cons {items : List Value} {item : Value}
    (h : (Value.arr items).HasDistinctNames) (hitem : item.HasDistinctNames) :
    (Value.arr (item :: items)).HasDistinctNames := by
  cases h with
  | arr hitems => exact .arr (List.forall_mem_cons.mpr ⟨hitem, hitems⟩)

theorem HasDistinctNames.reverse {items : List Value} (h : (Value.arr items).HasDistinctNames) :
    (Value.arr items.reverse).HasDistinctNames := by
  cases h with
  | arr hitems => exact .arr fun item hitem => hitems item (List.mem_reverse.mp hitem)

end Value

namespace Reader

theorem hasDistinctNames_of_readUnsigned {negative : Bool} {cs rest : List Char} {v : Value}
    (h : readUnsigned negative cs = some (v, rest)) : v.HasDistinctNames := by
  obtain ⟨⟨whole, afterWhole⟩, -, h⟩ := Option.bind_eq_some_iff.mp h
  simp only at h
  split at h
  next =>
    cases h
    exact .int _
  next =>
    cases h
    exact .float _

theorem hasDistinctNames_of_readKeyword {cs rest : List Char} {v : Value}
    (h : readKeyword cs = some (v, rest)) : v.HasDistinctNames := by
  obtain ⟨⟨word, value⟩, hmem, hvalue⟩ := List.exists_of_findSome?_eq_some h
  have hkeywords : ∀ k ∈ keywords, k.2.HasDistinctNames := by
    simp only [keywords, List.forall_mem_cons]
    exact ⟨.null, .bool true, .bool false, .float _, .float _, .float _, by simp⟩
  simp only at hvalue
  split at hvalue
  next =>
    cases hvalue
    exact hkeywords _ hmem
  next => cases hvalue

theorem hasDistinctNames_of_readPlain {cs rest : List Char} {v : Value}
    (h : readPlain cs = .ok (v, rest)) : v.HasDistinctNames := by
  rw [readPlain.eq_def] at h
  simp only at h
  split at h
  next answer hfound =>
    cases h
    split at hfound
    next hkeyword =>
      cases hfound
      exact hasDistinctNames_of_readKeyword hkeyword
    next =>
      split at hfound
      next => exact hasDistinctNames_of_readUnsigned hfound
      next => exact hasDistinctNames_of_readUnsigned hfound
  next => cases h

/-- What is read with some fuel has distinct names, whether it is a value or the rest of a container
whose items so far have distinct names. -/
structure ReadsDistinctNames (fuel : Nat) : Prop where
  value : ∀ cs v rest, readValue fuel cs = .ok (v, rest) → v.HasDistinctNames
  members : ∀ done cs v rest, (Value.obj done).HasDistinctNames →
    readMembers fuel done cs = .ok (v, rest) → v.HasDistinctNames
  items : ∀ done cs v rest, (Value.arr done).HasDistinctNames →
    readItems fuel done cs = .ok (v, rest) → v.HasDistinctNames

namespace ReadsDistinctNames

variable {fuel : Nat} {cs rest : List Char} {v : Value}

theorem readValue_succ (h : ReadsDistinctNames fuel)
    (hread : readValue (fuel + 1) cs = .ok (v, rest)) : v.HasDistinctNames := by
  have hobj : (Value.obj []).HasDistinctNames := by
    constructor
    · exact List.nodup_nil
    · simp
  have harr : (Value.arr []).HasDistinctNames := by
    constructor
    simp
  rw [readValue.eq_def] at hread
  simp only at hread
  split at hread
  next =>
    obtain ⟨⟨s, after⟩, -, hs⟩ := Outcome.bind_eq_ok_iff.mp hread
    cases hs
    exact .str s
  next =>
    split at hread
    next =>
      cases hread
      exact hobj
    next => exact h.members _ _ _ _ hobj hread
  next =>
    split at hread
    next =>
      cases hread
      exact harr
    next => exact h.items _ _ _ _ harr hread
  next => exact hasDistinctNames_of_readPlain hread

/-- A member that is read takes the place of the one with its name. -/
theorem readMembers_succ (h : ReadsDistinctNames fuel) {done : List (String × Value)}
    (hdone : (Value.obj done).HasDistinctNames)
    (hread : readMembers (fuel + 1) done cs = .ok (v, rest)) : v.HasDistinctNames := by
  rw [readMembers.eq_def] at hread
  simp only at hread
  split at hread
  next =>
    obtain ⟨⟨name, afterName⟩, -, hread⟩ := Outcome.bind_eq_ok_iff.mp hread
    simp only at hread
    split at hread
    next =>
      obtain ⟨⟨value, afterValue⟩, hvalue, hread⟩ := Outcome.bind_eq_ok_iff.mp hread
      have hput := hdone.put (h.value _ _ _ hvalue) name
      simp only at hread
      split at hread
      next =>
        cases hread
        exact hput
      next => exact h.members _ _ _ _ hput hread
      next => cases hread
    next => cases hread
  next => cases hread

theorem readItems_succ (h : ReadsDistinctNames fuel) {done : List Value}
    (hdone : (Value.arr done).HasDistinctNames)
    (hread : readItems (fuel + 1) done cs = .ok (v, rest)) : v.HasDistinctNames := by
  rw [readItems.eq_def] at hread
  simp only at hread
  obtain ⟨⟨item, after⟩, hitem, hread⟩ := Outcome.bind_eq_ok_iff.mp hread
  have hcons := hdone.cons (h.value _ _ _ hitem)
  simp only at hread
  split at hread
  next =>
    cases hread
    exact hcons.reverse
  next => exact h.items _ _ _ _ hcons hread
  next => cases hread

end ReadsDistinctNames

theorem readsDistinctNames (fuel : Nat) : ReadsDistinctNames fuel := by
  induction fuel with
  | zero =>
      constructor
      · intro cs v rest h
        cases h
      · intro done cs v rest _ h
        cases h
      · intro done cs v rest _ h
        cases h
  | succ fuel ih =>
      constructor
      · intro cs v rest h
        exact ih.readValue_succ h
      · intro done cs v rest hdone h
        exact ih.readMembers_succ hdone h
      · intro done cs v rest hdone h
        exact ih.readItems_succ hdone h

/-- A text that is read has distinct names. -/
theorem hasDistinctNames_of_read {cs : List Char} {v : Value} (h : read cs = .ok v) :
    v.HasDistinctNames := by
  rw [read.eq_def] at h
  split at h
  next => cases h
  next =>
    obtain ⟨⟨value, after⟩, hvalue, h⟩ := Outcome.bind_eq_ok_iff.mp h
    simp only at h
    split at h
    next =>
      cases h
      exact (readsDistinctNames _).value _ _ _ hvalue
    next => cases h

end Reader
end Json
end FlowDecl
