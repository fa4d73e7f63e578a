import ThemeSwitch.ClassList

/-! # Setting classes

A class that is set is there or not as it was set, all other classes stay in their order, and to set
what is so already changes nothing. All of it rests on the classes being distinct. -/
namespace ThemeSwitch.ClassList

theorem eq_of_classes {list list' : ClassList} (h : list.classes = list'.classes) :
    list = list' := by
  cases list
  cases list'
  cases h
  rfl

theorem insert_of_contains {list : ClassList} {name : String} (h : IsToken name)
    (hc : list.contains name = true) : list.insert name h = list :=
  dif_pos (List.contains_iff_mem.1 hc)

theorem classes_insert_of_not_contains {list : ClassList} {name : String} (h : IsToken name)
    (hc : list.contains name = false) : (list.insert name h).classes = list.classes ++ [name] := by
  have hn : name ∉ list.classes := by simpa [contains] using hc
  rw [insert, dif_neg hn]

theorem erase_of_not_contains {list : ClassList} {name : String}
    (hc : list.contains name = false) : list.erase name = list :=
  eq_of_classes (List.erase_of_not_mem (by simpa [contains] using hc))

theorem contains_erase (list : ClassList) (name : String) :
    (list.erase name).contains name = false := by
  simpa [contains, erase] using list.nodup.not_mem_erase

/-- With its name an added class goes again, from wherever it stands. -/
theorem erase_insert (list : ClassList) {name : String} (h : IsToken name) :
    (list.insert name h).erase name = list.erase name := by
  cases hc : list.contains name with
  | true => rw [insert_of_contains h hc]
  | false =>
    have hn : name ∉ list.classes := by simpa [contains] using hc
    refine eq_of_classes ?_
    calc (list.insert name h).classes.erase name
      _ = (list.classes ++ [name]).erase name := by rw [classes_insert_of_not_contains h hc]
      _ = list.classes := by simp [List.erase_append_right _ hn]
      _ = list.classes.erase name := (List.erase_of_not_mem hn).symm

/-- The list with the class, or without it. -/
def put (list : ClassList) {name : String} (h : IsToken name) (present : Bool) : ClassList :=
  if present then list.insert name h else list.erase name

theorem set_of_isToken {name : String} (h : IsToken name) (list : ClassList) (present : Bool) :
    list.set name present = .ok (list.put h present) :=
  dif_pos h

theorem isToken_of_set {list next : ClassList} {name : String} {present : Bool}
    (h : list.set name present = .ok next) : ∃ ht : IsToken name, next = list.put ht present := by
  rw [set] at h
  split at h
  · next ht => exact ⟨ht, (Except.ok.inj h).symm⟩
  · cases h

/-- A class is there or not as it was last set. No second copy of it can be left behind, since the
classes are distinct. -/
theorem contains_of_set {list next : ClassList} {name : String} {present : Bool}
    (h : list.set name present = .ok next) : next.contains name = present := by
  obtain ⟨ht, rfl⟩ := isToken_of_set h
  cases present with
  | false => exact list.contains_erase name
  | true => by_cases hm : name ∈ list.classes <;> simp [contains, put, insert, hm]

/-- A class that is there already, or already missing, need not be set. -/
theorem put_of_contains {list : ClassList} {name : String} {present : Bool} (h : IsToken name)
    (hc : list.contains name = present) : list.put h present = list := by
  cases present with
  | false => exact erase_of_not_contains hc
  | true => exact insert_of_contains h hc

/-- Setting a class leaves the others as they are, and in their order. -/
theorem erase_of_set {list next : ClassList} {name : String} {present : Bool}
    (h : list.set name present = .ok next) : next.erase name = list.erase name := by
  obtain ⟨ht, rfl⟩ := isToken_of_set h
  cases present with
  | false => exact erase_of_not_contains (list.contains_erase name)
  | true => exact list.erase_insert ht

end ThemeSwitch.ClassList
