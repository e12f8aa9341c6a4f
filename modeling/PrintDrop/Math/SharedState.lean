/-
# State that parties share

Objects that are referred to by their position in a list that only grows, and
bounded first-in first-out channels. A channel records who sent and who received
what, and carries the law that what has been sent is what has been received
followed by what it holds.
-/

import Mathlib.Data.List.Nodup
import Mathlib.Data.List.Perm.Basic

namespace PrintDrop.Math

universe u v

section Objects

variable {α : Type u} {objects : List α} {pointer other : ℕ} {object changed : α}

/-- What a pointer refers to after one more object has been made. -/
theorem getElem?_concat_eq_some :
    (objects ++ [changed])[pointer]? = some object ↔
      objects[pointer]? = some object ∨ pointer = objects.length ∧ object = changed := by
  rcases Nat.lt_trichotomy pointer objects.length with hlt | rfl | hgt
  · rw [List.getElem?_append_left hlt]
    simp [Nat.ne_of_lt hlt]
  · simp [eq_comm]
  · have hnone : objects[pointer]? = none := List.getElem?_eq_none (Nat.le_of_lt hgt)
    have hnone' : (objects ++ [changed])[pointer]? = none :=
      List.getElem?_eq_none (by rw [List.length_append, List.length_singleton]; exact hgt)
    simp [hnone, hnone', Nat.ne_of_gt hgt]

/-- An object that has been made stays where it is. -/
theorem getElem?_concat (hobject : objects[pointer]? = some object) :
    (objects ++ [changed])[pointer]? = some object :=
  getElem?_concat_eq_some.mpr (.inl hobject)

/-- What a pointer refers to after one object has been changed. -/
theorem getElem?_modify_eq_some {change : α → α} :
    (objects.modify pointer change)[other]? = some object ↔
      ∃ before, objects[other]? = some before ∧
        object = if pointer = other then change before else before := by
  rw [List.getElem?_modify]
  cases objects[other]? with
  | none => simp
  | some before => by_cases hsame : pointer = other <;> simp [hsame, eq_comm]

/-- An object that has been made is there after a change, perhaps changed. -/
theorem getElem?_modify_of_some (hobject : objects[other]? = some object) (pointer : ℕ)
    (change : α → α) : (objects.modify pointer change)[other]? =
      some (if pointer = other then change object else object) :=
  getElem?_modify_eq_some.mpr ⟨object, hobject, rfl⟩

/-- An object is changed where its pointer refers to it. -/
theorem getElem?_modify_self {change : α → α} (hobject : objects[pointer]? = some object) :
    (objects.modify pointer change)[pointer]? = some (change object) := by
  rw [getElem?_modify_of_some hobject, if_pos rfl]

/-- Every other object is left alone. -/
theorem getElem?_modify_of_ne {change : α → α} (hne : pointer ≠ other) :
    (objects.modify pointer change)[other]? = objects[other]? := by
  rw [List.getElem?_modify]
  simp [hne]

/-- A change that does not show leaves what shows. -/
theorem map_modify_of_same {β : Type v} {visible : α → β} {change : α → α}
    (hsame : ∀ object, objects[pointer]? = some object →
      visible (change object) = visible object) :
    (objects.modify pointer change).map visible = objects.map visible := by
  apply List.ext_getElem?
  intro other
  rw [List.getElem?_map, List.getElem?_map, List.getElem?_modify]
  cases hobject : objects[other]? with
  | none => rfl
  | some object =>
      by_cases heq : pointer = other
      · subst heq
        simp [hsame object hobject]
      · simp [heq]

/-- A change that shows. -/
theorem map_modify_eq_set {β : Type v} {visible : α → β} {change : α → α} {shown : β}
    (hshown : ∀ object, objects[pointer]? = some object → visible (change object) = shown) :
    (objects.modify pointer change).map visible = (objects.map visible).set pointer shown := by
  apply List.ext_getElem?
  intro other
  rw [List.getElem?_map, List.getElem?_modify, List.getElem?_set, List.getElem?_map,
    List.length_map]
  by_cases heq : pointer = other
  · subst heq
    cases hobject : objects[pointer]? with
    | none => simp [List.getElem?_eq_none_iff.mp hobject]
    | some object =>
        have hlt := (List.getElem?_eq_some_iff.mp hobject).1
        simp [hlt, hshown object hobject]
  · simp [heq]

/-- The objects that are marked. -/
def marked (marks : List Bool) (objects : List α) : List α :=
  ((marks.zip objects).filter Prod.fst).map Prod.snd

/-- One more object, which is not marked. -/
theorem marked_concat {marks : List Bool} (hlength : marks.length = objects.length) :
    marked (marks ++ [false]) (objects ++ [object]) = marked marks objects := by
  rw [marked, List.zip_append hlength, List.filter_append, List.map_append]
  exact List.append_nil _

/-- One of the objects is marked. -/
theorem marked_set_perm {marks : List Bool} (hmark : marks[pointer]? = some false)
    (hobject : objects[pointer]? = some object) :
    (marked (marks.set pointer true) objects).Perm (marked marks objects ++ [object]) := by
  induction marks generalizing objects pointer with
  | nil => cases hmark
  | cons mark marks ih =>
      cases objects with
      | nil => cases hobject
      | cons first objects =>
          cases pointer with
          | zero =>
              obtain rfl := Option.some.inj hmark
              obtain rfl := Option.some.inj hobject
              exact (List.perm_append_singleton _ _).symm
          | succ pointer =>
              have hrest := ih hmark hobject
              cases mark with
              | true => exact hrest.cons first
              | false => exact hrest

end Objects

/-- A channel that holds at most `capacity` items, with the record of its use. -/
structure Channel (Party : Type u) (α : Type v) (capacity : ℕ) where
  /-- What has been sent and not yet received, the oldest first. -/
  buffer : List α
  sent : List (Party × α)
  received : List (Party × α)
  bounded : buffer.length ≤ capacity
  inOrder : sent.map Prod.snd = received.map Prod.snd ++ buffer

namespace Channel

variable {Party : Type u} {α : Type v} {capacity : ℕ}

def empty : Channel Party α capacity where
  buffer := []
  sent := []
  received := []
  bounded := Nat.zero_le _
  inOrder := rfl

/-- A party sends an item, which is possible while the channel is not full. -/
def send (channel : Channel Party α capacity) (party : Party) (item : α) :
    Option (Channel Party α capacity) :=
  if hroom : channel.buffer.length < capacity then
    some {
      buffer := channel.buffer ++ [item]
      sent := channel.sent ++ [(party, item)]
      received := channel.received
      bounded := by
        rw [List.length_append]
        exact hroom
      inOrder := by
        rw [List.map_append, channel.inOrder, List.append_assoc]
        rfl }
  else none

/-- A party receives the oldest item, which is possible while there is one. -/
def receive (channel : Channel Party α capacity) (party : Party) :
    Option (α × Channel Party α capacity) :=
  match hbuffer : channel.buffer with
  | [] => none
  | item :: rest =>
    some (item, {
      buffer := rest
      sent := channel.sent
      received := channel.received ++ [(party, item)]
      bounded := by
        have hbounded := channel.bounded
        rw [hbuffer, List.length_cons] at hbounded
        omega
      inOrder := by
        rw [channel.inOrder, hbuffer, List.map_append, List.append_assoc]
        rfl })

variable {channel next : Channel Party α capacity} {party other : Party} {item : α}

/-- What sending does. -/
theorem send_eq_some (hsend : channel.send party item = some next) :
    next.buffer = channel.buffer ++ [item] ∧ next.sent = channel.sent ++ [(party, item)] ∧
      next.received = channel.received := by
  unfold send at hsend
  split at hsend
  · obtain rfl := Option.some.inj hsend
    exact ⟨rfl, rfl, rfl⟩
  · cases hsend

/-- What receiving does. -/
theorem receive_eq_some (hreceive : channel.receive party = some (item, next)) :
    channel.buffer = item :: next.buffer ∧ next.sent = channel.sent ∧
      next.received = channel.received ++ [(party, item)] := by
  unfold receive at hreceive
  split at hreceive
  · cases hreceive
  · rename_i first rest hbuffer
    obtain ⟨rfl, rfl⟩ := Prod.mk.inj (Option.some.inj hreceive)
    exact ⟨hbuffer, rfl, rfl⟩

section Parties

variable [DecidableEq Party] {record : List (Party × α)}

/-- What one party has to do with in a record. -/
def itemsOf (party : Party) (record : List (Party × α)) : List α :=
  (record.filter fun entry => entry.1 = party).map Prod.snd

theorem itemsOf_concat :
    itemsOf other (record ++ [(party, item)]) =
      itemsOf other record ++ if party = other then [item] else [] := by
  rw [itemsOf, List.filter_append, List.map_append, ← itemsOf]
  by_cases hsame : party = other <;> simp [hsame]

/-- A record of one party alone is all of its items. -/
theorem itemsOf_sole (hsole : ∀ entry ∈ record, entry.1 = party) :
    itemsOf party record = record.map Prod.snd := by
  rw [itemsOf, List.filter_eq_self.mpr]
  simpa using hsole

/-- A party that a record does not mention has no items. -/
theorem itemsOf_absent (habsent : ∀ entry ∈ record, entry.1 ≠ party) :
    itemsOf party record = [] := by
  rw [itemsOf, List.filter_eq_nil_iff.mpr, List.map_nil]
  simpa using habsent

/-- An entry is picked once for each time its party is asked. -/
private theorem flatMap_pick (parties : List Party) (entry : Party × α) :
    (parties.flatMap fun party => if entry.1 = party then [entry.2] else []) =
      List.replicate (parties.count entry.1) entry.2 := by
  induction parties with
  | nil => rfl
  | cons party parties ih =>
      rw [List.flatMap_cons, ih, List.count_cons]
      by_cases hsame : party = entry.1
      · simp [hsame, List.replicate_succ]
      · simp [hsame, Ne.symm hsame]

/-- What all parties of a record have to do with in it is the whole record, in some order. -/
theorem flatMap_itemsOf_perm {parties : List Party} (hnodup : parties.Nodup)
    (hall : ∀ entry ∈ record, entry.1 ∈ parties) :
    (parties.flatMap fun party => itemsOf party record).Perm (record.map Prod.snd) := by
  induction record with
  | nil => simp [itemsOf]
  | cons entry record ih =>
      have hcons : ∀ party, itemsOf party (entry :: record) =
          (if entry.1 = party then [entry.2] else []) ++ itemsOf party record := by
        intro party
        by_cases hsame : entry.1 = party <;> simp [itemsOf, hsame]
      have honce := flatMap_pick parties entry
      rw [List.Nodup.count hnodup, if_pos (hall entry List.mem_cons_self)] at honce
      have hrest := ih fun other hother => hall other (List.mem_cons_of_mem _ hother)
      simp only [hcons]
      refine (List.flatMap_append_perm parties _ _).symm.trans ?_
      rw [honce]
      exact hrest.cons _

/-- Between one sender and one receiver a channel loses nothing and keeps the order. -/
theorem itemsOf_sent (hsender : ∀ entry ∈ channel.sent, entry.1 = party)
    (hreceiver : ∀ entry ∈ channel.received, entry.1 = other) :
    itemsOf party channel.sent = itemsOf other channel.received ++ channel.buffer := by
  rw [itemsOf_sole hsender, itemsOf_sole hreceiver, channel.inOrder]

end Parties

end Channel

end PrintDrop.Math
