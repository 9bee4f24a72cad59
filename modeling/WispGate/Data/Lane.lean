import Mathlib.Data.List.Forall2

/-! # Numbered items on a queue

A sender numbers the items that it puts on a first-in first-out queue, and a receiver takes them off
again under the numbers it expects. `Lane` says that nothing is lost, repeated or out of order on the
way: what was sent is what arrived and what is still waiting. `Lane.push` and `Lane.pop` are the only
ways in which a machine has to keep it.
-/

namespace WispGate.Data

variable {α β φ : Type*} {Wire : ℕ → φ → α → Prop} {Reads : α → β → Prop}

/-- The queue holds what the items became, numbered from a number on. -/
inductive Numbered (Wire : ℕ → φ → α → Prop) : ℕ → List φ → List α → Prop
  | nil (n : ℕ) : Numbered Wire n [] []
  | cons {n : ℕ} {frame : φ} {item : α} {frames : List φ} {items : List α} : Wire n frame item →
      Numbered Wire (n + 1) frames items → Numbered Wire n (frame :: frames) (item :: items)

section Numbered

variable {n : ℕ} {frame : φ} {item : α} {frames : List φ} {items : List α}

theorem Numbered.length_eq (numbered : Numbered Wire n frames items) : frames.length = items.length := by
  induction numbered with
  | nil n => rfl
  | cons _ _ ih => rw [List.length_cons, List.length_cons, ih]

/-- The next number goes to the end of the queue. -/
theorem Numbered.snoc (numbered : Numbered Wire n frames items) (wire : Wire (n + frames.length) frame item) :
    Numbered Wire n (frames ++ [frame]) (items ++ [item]) := by
  induction numbered with
  | nil n => exact .cons wire (.nil _)
  | @cons n other _ rest _ first _ ih =>
    have further : n + (other :: rest).length = n + 1 + rest.length := by
      rw [List.length_cons]
      omega
    rw [further] at wire
    exact .cons first (ih wire)

end Numbered

/-- One direction of a conversation: the number that the receiver expects, the next one of the sender,
the queue between them, and what the one has sent and the other has got. -/
structure Lane (Wire : ℕ → φ → α → Prop) (Reads : α → β → Prop) (next counter : ℕ) (queue : List φ) (sent : List α)
    (got : List β) : Prop where
  split : ∃ arrived waiting, sent = arrived ++ waiting ∧ List.Forall₂ Reads arrived got ∧
    Numbered Wire next queue waiting
  counted : counter = next + queue.length

namespace Lane

variable {next counter : ℕ} {frame : φ} {queue : List φ} {item : α} {sent : List α} {got : List β}

theorem start (n : ℕ) : Lane Wire Reads n n [] [] [] := ⟨⟨[], [], rfl, .nil, .nil n⟩, rfl⟩

theorem push (lane : Lane Wire Reads next counter queue sent got) (wire : Wire counter frame item) :
    Lane Wire Reads next (counter + 1) (queue ++ [frame]) (sent ++ [item]) got := by
  obtain ⟨⟨arrived, waiting, rfl, reads, numbered⟩, rfl⟩ := lane
  refine ⟨⟨arrived, waiting ++ [item], List.append_assoc _ _ _, reads, numbered.snoc wire⟩, ?_⟩
  rw [List.length_append, List.length_singleton, Nat.add_assoc]

theorem pop (lane : Lane Wire Reads next counter (frame :: queue) sent got) :
    ∃ item, Wire next frame item ∧ ∀ read, Reads item read →
      Lane Wire Reads (next + 1) counter queue sent (got ++ [read]) := by
  obtain ⟨⟨arrived, waiting, rfl, reads, numbered⟩, rfl⟩ := lane
  cases numbered with
  | @cons _ _ item _ items wire rest =>
    refine ⟨item, wire, fun read same => ⟨⟨arrived ++ [item], items, ?_, ?_, rest⟩, ?_⟩⟩
    · rw [List.append_assoc]
      rfl
    · exact List.rel_append reads (.cons same .nil)
    · rw [List.length_cons]
      omega

/-- What has arrived is a beginning of what was sent, and the rest is on the queue. -/
theorem arrives (lane : Lane Wire Reads next counter queue sent got) :
    List.Forall₂ Reads (sent.take got.length) got ∧ sent.length = got.length + queue.length := by
  obtain ⟨⟨arrived, waiting, rfl, reads, numbered⟩, -⟩ := lane
  rw [← reads.length_eq, List.take_left, List.length_append, numbered.length_eq]
  exact ⟨reads, rfl⟩

end Lane

end WispGate.Data
