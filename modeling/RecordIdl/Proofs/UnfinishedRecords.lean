import RecordIdl.Proofs.DescribedRecords

namespace RecordIdl

namespace Xml

/-- How far events have come in the outermost elements of one name: how many elements are open
inside the one that is open, if any, and how many were finished before. -/
structure Progress where
  depth : Option Nat := none
  finished : Nat := 0
  deriving DecidableEq, Repr

namespace Progress

def next (tag : String) (p : Progress) (event : Event) : Progress :=
  match p.depth, event with
  | none, .start name _ => if name = tag then { p with depth := some 0 } else p
  | none, .empty name _ => if name = tag then { p with finished := p.finished + 1 } else p
  | some n, .start .. => { p with depth := some (n + 1) }
  | some 0, .close _ => { depth := none, finished := p.finished + 1 }
  | some (n + 1), .close _ => { p with depth := some n }
  | _, _ => p

def after (tag : String) (events : List Event) : Progress :=
  events.foldl (next tag) {}

end Progress

end Xml

namespace Description

open Xml

variable {set set' : RecordSet} {r : Record} {draft : FieldDraft} {list : ListDraft}
variable {event : Event} {place : Place} {s s' : State} {p : Progress} {n finished : Nat}

def Place.Inside (n : Nat) : Place → Prop
  | outside => False
  | inRecord _ => n = 0
  | inField .. => n = 1
  | inList .. => n = 2
  | skipping depth back => ∃ m, back.Inside m ∧ n = m + depth + 1

/-- What was read keeps to a count of the elements: so many records, and so deep in the next. -/
def State.At (s : State) (p : Progress) : Prop :=
  s.set.size = p.finished ∧
  match p.depth with
  | none => s.place = .outside
  | some n => s.place.Inside n

theorem size_addRecord (h : addRecord set r = .ok set') : set'.size = set.size + 1 := by
  rw [RecordSet.size, records_addRecord h, List.length_append, List.length_singleton]
  rfl

def depthAfter (n : Nat) : Event → Nat
  | .start .. => n + 1
  | .close _ => n - 1
  | .empty .. | .other => n

theorem inRecord_inside (h : inRecord r event = .ok place) : place.Inside (depthAfter 0 event) := by
  cases event with
  | start element attributes =>
      rw [inRecord] at h
      split at h
      · obtain ⟨draft, _, rfl⟩ := bind_pure_eq_ok_iff.1 h
        rfl
      · split at h
        · obtain ⟨v, _, rfl⟩ := bind_pure_eq_ok_iff.1 h
          exact ⟨0, rfl, rfl⟩
        · obtain rfl := Except.ok.inj h
          exact ⟨0, rfl, rfl⟩
  | empty element attributes =>
      rw [inRecord] at h
      split at h
      · obtain ⟨_, _, h⟩ := bind_eq_ok_iff.1 h
        cases h
      · split at h
        · obtain ⟨v, _, rfl⟩ := bind_pure_eq_ok_iff.1 h
          rfl
        · obtain rfl := Except.ok.inj h
          rfl
  | close | other =>
      obtain rfl := Except.ok.inj h
      rfl

theorem inField_inside (h : inField r draft event = .ok place) :
    place.Inside (depthAfter 1 event) := by
  cases event with
  | start element attributes =>
      rw [inField] at h
      split at h
      · obtain ⟨list, _, rfl⟩ := bind_pure_eq_ok_iff.1 h
        rfl
      · obtain ⟨draft', _, rfl⟩ := bind_pure_eq_ok_iff.1 h
        exact ⟨1, rfl, rfl⟩
  | empty element attributes =>
      rw [inField] at h
      split at h
      · cases h
      · obtain ⟨draft', _, rfl⟩ := bind_pure_eq_ok_iff.1 h
        rfl
  | close =>
      obtain ⟨r', _, rfl⟩ := bind_pure_eq_ok_iff.1 h
      rfl
  | other =>
      obtain rfl := Except.ok.inj h
      rfl

theorem inList_inside (h : inList r draft list event = .ok place) :
    place.Inside (depthAfter 2 event) := by
  cases event with
  | start element attributes =>
      obtain ⟨list', _, rfl⟩ := bind_pure_eq_ok_iff.1 h
      exact ⟨2, rfl, rfl⟩
  | empty element attributes =>
      obtain ⟨list', _, rfl⟩ := bind_pure_eq_ok_iff.1 h
      rfl
  | close =>
      obtain ⟨draft', _, rfl⟩ := bind_pure_eq_ok_iff.1 h
      rfl
  | other =>
      obtain rfl := Except.ok.inj h
      rfl

theorem skipping_inside {depth m : Nat} {back : Place} (h : back.Inside m) :
    (skipping depth back event).Inside (depthAfter (m + depth + 1) event) := by
  cases event with
  | start => exact ⟨m, h, rfl⟩
  | empty | other => exact ⟨m, h, rfl⟩
  | close =>
      cases depth with
      | zero => exact h
      | succ depth => exact ⟨m, h, rfl⟩

theorem next_inside (h : ¬ (n = 0 ∧ ∃ name, event = .close name)) :
    Progress.next "class" ⟨some n, finished⟩ event = ⟨some (depthAfter n event), finished⟩ := by
  cases event with
  | start | empty | other => cases n <;> rfl
  | close name =>
      cases n with
      | zero => exact (h ⟨rfl, name, rfl⟩).elim
      | succ n => rfl

theorem outside_at (h : outside set event = .ok s) :
    s.At (Progress.next "class" ⟨none, set.size⟩ event) := by
  cases event with
  | start element attributes =>
      rw [outside] at h
      split at h
      · next hclass =>
          obtain ⟨r, _, rfl⟩ := bind_pure_eq_ok_iff.1 h
          simp only [Progress.next, if_pos hclass]
          exact ⟨rfl, rfl⟩
      · next hclass =>
          obtain rfl := Except.ok.inj h
          simp only [Progress.next, if_neg hclass]
          exact ⟨rfl, rfl⟩
  | empty element attributes =>
      rw [outside] at h
      split at h
      · next hclass =>
          obtain ⟨r, _, h⟩ := bind_eq_ok_iff.1 h
          obtain ⟨set', hset', rfl⟩ := bind_pure_eq_ok_iff.1 h
          simp only [Progress.next, if_pos hclass]
          exact ⟨size_addRecord hset', rfl⟩
      · next hclass =>
          obtain rfl := Except.ok.inj h
          simp only [Progress.next, if_neg hclass]
          exact ⟨rfl, rfl⟩
  | close | other =>
      obtain rfl := Except.ok.inj h
      exact ⟨rfl, rfl⟩

theorem step_at (hs : s.At p) (h : step s event = .ok s') :
    s'.At (p.next "class" event) := by
  obtain ⟨set, place⟩ := s
  obtain ⟨depth, finished⟩ := p
  obtain ⟨hsize, hplace⟩ := hs
  obtain rfl : set.size = finished := hsize
  cases depth with
  | none =>
      obtain rfl : place = .outside := hplace
      exact outside_at h
  | some n =>
      cases place with
      | outside => exact hplace.elim
      | inRecord r =>
          obtain rfl : n = 0 := hplace
          cases event with
          | close name =>
              obtain ⟨set', hset', rfl⟩ := bind_pure_eq_ok_iff.1 h
              exact ⟨size_addRecord hset', rfl⟩
          | start | empty | other =>
              obtain ⟨place', hplace', rfl⟩ := bind_pure_eq_ok_iff.1 h
              rw [next_inside (by simp)]
              exact ⟨rfl, inRecord_inside hplace'⟩
      | inField r draft =>
          obtain rfl : n = 1 := hplace
          obtain ⟨place', hplace', rfl⟩ := bind_pure_eq_ok_iff.1 h
          rw [next_inside (by simp)]
          exact ⟨rfl, inField_inside hplace'⟩
      | inList r draft list =>
          obtain rfl : n = 2 := hplace
          obtain ⟨place', hplace', rfl⟩ := bind_pure_eq_ok_iff.1 h
          rw [next_inside (by simp)]
          exact ⟨rfl, inList_inside hplace'⟩
      | skipping depth back =>
          obtain ⟨m, hback, rfl⟩ := hplace
          obtain rfl := Except.ok.inj h
          rw [next_inside (by simp)]
          exact ⟨rfl, skipping_inside hback⟩

theorem run_at {events : List Event} (hs : s.At p) (h : events.foldlM step s = .ok s') :
    s'.At (events.foldl (Progress.next "class") p) := by
  induction events generalizing s p with
  | nil =>
      obtain rfl : s = s' := by simpa [pure, Except.pure] using h
      exact hs
  | cons event events ih =>
      rw [List.foldlM_cons] at h
      obtain ⟨t, ht, h⟩ := bind_eq_ok_iff.1 h
      exact ih (step_at hs ht) h

theorem exists_unfinished (h : place.Inside n) : ∃ fault, place.unfinished? = some fault := by
  induction place generalizing n with
  | outside => exact h.elim
  | inRecord | inField | inList => exact ⟨_, rfl⟩
  | skipping depth back ih =>
      obtain ⟨m, hback, _⟩ := h
      exact ih hback

theorem finish_eq_ok {fault : Option Fault} (h : finish fault s = .ok set) :
    set = s.set ∧ s.place.unfinished? = none := by
  rw [finish.eq_def] at h
  split at h
  · cases h
  · cases h
  · next hnone => exact ⟨(Except.ok.inj h).symm, hnone⟩

theorem at_of_read {feed : Feed Event} (h : read feed = .ok set) :
    ∃ s : State, s.At (Progress.after "class" feed.items) ∧ set = s.set ∧
      s.place.unfinished? = none := by
  obtain ⟨s, hrun, hfinish⟩ := bind_eq_ok_iff.1 h
  have hstart : State.At ⟨.empty, .outside⟩ {} := ⟨rfl, rfl⟩
  exact ⟨s, run_at hstart hrun, finish_eq_ok hfinish⟩

/-- Events that end in an open record give a fault, and a set that is given has one record for
each finished one. -/
theorem unfinished_record_refused (feed : Feed Event) :
    ((Progress.after "class" feed.items).depth ≠ none → ∃ fault, read feed = .error fault) ∧
    ∀ set, read feed = .ok set → set.size = (Progress.after "class" feed.items).finished := by
  refine ⟨fun hopen => ?_, fun set hset => ?_⟩
  · cases hread : read feed with
    | error fault => exact ⟨fault, rfl⟩
    | ok set =>
        obtain ⟨s, ⟨_, hplace⟩, _, hnone⟩ := at_of_read hread
        obtain ⟨n, hn⟩ := Option.ne_none_iff_exists'.1 hopen
        rw [hn] at hplace
        obtain ⟨fault, hfault⟩ := exists_unfinished hplace
        rw [hnone] at hfault
        cases hfault
  · obtain ⟨s, ⟨hsize, _⟩, rfl, _⟩ := at_of_read hset
    exact hsize

def closedText : String := "<classes><class name='A'/><class name='B'><note><p/></note></class>"

def cutOffText : String :=
  closedText ++ "<class name='C'><attribute name='x'><objectlist><note>An <i>open"

def closedSet : RecordSet :=
  ⟨[{ name := "A", parent := "root" }, { name := "B", parent := "root" }], by decide⟩

theorem unfinished_record_refused_note :
    Progress.after "class" (Event.readAll cutOffText).items = ⟨some 4, 2⟩ ∧
    (∃ fault, read (Event.readAll cutOffText) = .error fault) ∧
    read (Event.readAll closedText) = .ok closedSet ∧
    closedSet.size = (Progress.after "class" (Event.readAll closedText).items).finished := by
  have hopen : Progress.after "class" (Event.readAll cutOffText).items = ⟨some 4, 2⟩ := by
    decide +kernel
  have hclosed : read (Event.readAll closedText) = .ok closedSet :=
    RecordSet.eq_ok_of_records (by decide +kernel)
  obtain ⟨hcut, _⟩ := unfinished_record_refused (Event.readAll cutOffText)
  obtain ⟨_, hsize⟩ := unfinished_record_refused (Event.readAll closedText)
  refine ⟨hopen, hcut ?_, hclosed, hsize closedSet hclosed⟩
  rw [hopen]
  exact Option.some_ne_none 4

end Description

end RecordIdl
