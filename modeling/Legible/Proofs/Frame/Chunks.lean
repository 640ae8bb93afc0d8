import Legible.Frame

/-!
# Frames in pieces

Octets come in pieces that end anywhere: inside a header, inside the terminator, between a header
and its body, or inside a character.  What a reader gives does not depend on where the pieces end
(`feed_append`, `feedAll_cons`), unless it refuses bodies.

A header that has been found stays the first one when octets follow (`splitHeader?_append`), so a
step of a reader stays possible and does the same (`step_extend`).  A reader stops only where no
step is possible, and goes on from there with the octets that follow (`bodies_extend`).
-/

namespace Legible.Frame

theorem splitHeader?_append {bs header rest : Bytes} (h : splitHeader? bs = some (header, rest))
    (more : Bytes) : splitHeader? (bs ++ more) = some (header, rest ++ more) := by
  fun_induction splitHeader? bs generalizing header with
  | case1 rest' =>
    simp only [Option.some.injEq, Prod.mk.injEq] at h
    obtain ⟨rfl, rfl⟩ := h
    simp [splitHeader?]
  | case2 b rest' hb ih =>
    simp only [Option.map_eq_some_iff, Prod.mk.injEq] at h
    obtain ⟨⟨p, q⟩, hp, rfl, rfl⟩ := h
    have hq : splitHeader? (rest' ++ more) = some (p, q ++ more) := ih hp
    have hlen := splitHeader?_length hp
    -- the terminator does not begin here, since the rest is long enough to show it
    have hcons : splitHeader? (b :: (rest' ++ more)) =
        (splitHeader? (rest' ++ more)).map fun p => (b :: p.1, p.2) := by
      rw [splitHeader?]
      rintro r rfl hr
      obtain ⟨x, y, z, tail, rfl⟩ : ∃ x y z tail, rest' = x :: y :: z :: tail := by
        match rest', hlen with
        | x :: y :: z :: tail, _ => exact ⟨x, y, z, tail, rfl⟩
        | [x, y], hlen => simp at hlen
        | [x], hlen => simp at hlen
        | [], hlen => simp at hlen
      simp only [List.cons_append, List.cons.injEq] at hr
      obtain ⟨rfl, rfl, rfl, -⟩ := hr
      exact hb tail rfl rfl
    rw [List.cons_append, hcons, hq]
    rfl
  | case3 => simp at h

namespace Reader

/-- A reader that holds some octets more. -/
def extend (r : Reader) (bs : Bytes) : Reader := { r with buffer := r.buffer ++ bs }

@[simp] theorem extend_pending (r : Reader) (bs : Bytes) : (r.extend bs).pending = r.pending := rfl

@[simp] theorem extend_buffer (r : Reader) (bs : Bytes) :
    (r.extend bs).buffer = r.buffer ++ bs := rfl

theorem extend_append (r : Reader) (a b : Bytes) : r.extend (a ++ b) = (r.extend a).extend b := by
  simp [extend]

theorem feed_eq (r : Reader) (bs : Bytes) :
    r.feed bs = ((bodies (fun _ => false) (r.extend bs)).1.filterMap messageOf?,
      (bodies (fun _ => false) (r.extend bs)).2) := rfl

theorem feedWithin_eq (depth : Nat) (r : Reader) (bs : Bytes) :
    r.feedWithin depth bs =
      (if (bodies (isTooDeep depth) (r.extend bs)).1.any (isTooDeep depth) then none
        else some ((bodies (isTooDeep depth) (r.extend bs)).1.filterMap messageOf?),
        (bodies (isTooDeep depth) (r.extend bs)).2) := rfl

theorem feedWithin_eq_some_iff {depth : Nat} {r s : Reader} {bs : Bytes} {ms : List Fields} :
    r.feedWithin depth bs = (some ms, s) ↔
      (bodies (isTooDeep depth) (r.extend bs)).1.any (isTooDeep depth) = false ∧
        (bodies (isTooDeep depth) (r.extend bs)).1.filterMap messageOf? = ms ∧
        (bodies (isTooDeep depth) (r.extend bs)).2 = s := by
  rw [feedWithin_eq]
  cases (bodies (isTooDeep depth) (r.extend bs)).1.any (isTooDeep depth) <;> simp

theorem map_fields_filterMap_incomingOf? (found : List Bytes) :
    (found.filterMap incomingOf?).map (·.fields) = found.filterMap messageOf? := by
  have hbody : (fun body => (incomingOf? body).map (·.fields)) = messageOf? := by
    funext body
    rw [incomingOf?, Option.map_map]
    exact Option.map_id'
  rw [List.map_filterMap, hbody]

theorem read_eq_bodies (depth : Option Nat) (r : Reader) (bs : Bytes) :
    r.read depth bs =
      (if (bodies (isBeyond depth) (r.extend bs)).1.any (isBeyond depth) then none
        else some ((bodies (isBeyond depth) (r.extend bs)).1.filterMap incomingOf?),
        (bodies (isBeyond depth) (r.extend bs)).2) := rfl

/-- The messages that are read are those that are given, and their sources come with them. -/
theorem read_fields (depth : Option Nat) (r : Reader) (bs : Bytes) :
    ((r.read depth bs).1.map (·.map (·.fields)), (r.read depth bs).2) =
      match depth with
      | none => (some (r.feed bs).1, (r.feed bs).2)
      | some bound => r.feedWithin bound bs := by
  cases depth with
  | none =>
    have hnone : (bodies (isBeyond none) (r.extend bs)).1.any (isBeyond none) = false :=
      List.any_eq_false.2 fun _ _ => Bool.false_ne_true
    rw [read_eq_bodies, hnone, if_neg Bool.false_ne_true, Option.map_some,
      map_fields_filterMap_incomingOf?]
    rfl
  | some bound =>
    rw [read_eq_bodies, apply_ite (Option.map _), Option.map_some, Option.map_none,
      map_fields_filterMap_incomingOf?]
    rfl

/-! ## One step -/

theorem step_extend {r s : Reader} {m : Option Bytes} (h : r.step = some (m, s)) (bs : Bytes) :
    (r.extend bs).step = some (m, s.extend bs) := by
  obtain ⟨buffer, pending⟩ := r
  cases pending with
  | none =>
    simp only [step, Option.map_eq_some_iff, Prod.mk.injEq] at h
    obtain ⟨⟨header, rest⟩, hs, rfl, rfl⟩ := h
    simp [step, extend, splitHeader?_append hs bs]
  | some n =>
    simp only [step] at h
    split at h
    · simp at h
    · rename_i hn
      simp only [Option.some.injEq, Prod.mk.injEq] at h
      obtain ⟨rfl, rfl⟩ := h
      have hle : n ≤ buffer.length := by omega
      simp only [step, extend, List.length_append, List.take_append_of_le_length hle,
        List.drop_append_of_le_length hle]
      rw [if_neg (by omega)]

/-! ## Steps until none is possible -/

section

variable {halts : Bytes → Bool} {r s : Reader} {body : Bytes}

theorem bodies_of_stuck (h : r.step = none) : bodies halts r = ([], r) := by
  rw [bodies]
  split <;> simp_all

theorem bodies_of_header (h : r.step = some (none, s)) : bodies halts r = bodies halts s := by
  rw [bodies]
  split <;> simp_all

theorem bodies_of_body (h : r.step = some (some body, s)) (hb : halts body = false) :
    bodies halts r = (body :: (bodies halts s).1, (bodies halts s).2) := by
  rw [bodies]
  split <;> simp_all

theorem bodies_of_halting (h : r.step = some (some body, s)) (hb : halts body = true) :
    bodies halts r = ([body], s) := by
  rw [bodies]
  split <;> simp_all

/-- A reader that did not halt goes on with the octets that follow. -/
theorem bodies_extend (h : (bodies halts r).1.any halts = false) (bs : Bytes) :
    bodies halts (r.extend bs) =
      ((bodies halts r).1 ++ (bodies halts ((bodies halts r).2.extend bs)).1,
        (bodies halts ((bodies halts r).2.extend bs)).2) := by
  fun_induction bodies halts r with
  | case1 r hr => simp
  | case2 r s hr ih =>
    rw [bodies_of_header (step_extend hr bs)]
    exact ih h
  | case3 r body s hr hb => simp [hb] at h
  | case4 r body s hr hb rest t ht ih =>
    have hb : halts body = false := by simpa using hb
    simp only [List.any_cons, hb, Bool.false_or] at h
    rw [ht] at ih
    rw [bodies_of_body (step_extend hr bs) hb, ih h]
    simp

/-- A reader that halted has halted whatever follows, and holds that as well. -/
theorem bodies_extend_of_halted (h : (bodies halts r).1.any halts = true) (bs : Bytes) :
    bodies halts (r.extend bs) = ((bodies halts r).1, (bodies halts r).2.extend bs) := by
  fun_induction bodies halts r with
  | case1 r hr => simp at h
  | case2 r s hr ih =>
    rw [bodies_of_header (step_extend hr bs)]
    exact ih h
  | case3 r body s hr hb => rw [bodies_of_halting (step_extend hr bs) hb]
  | case4 r body s hr hb rest t ht ih =>
    have hb : halts body = false := by simpa using hb
    simp only [List.any_cons, hb, Bool.false_or] at h
    rw [ht] at ih
    rw [bodies_of_body (step_extend hr bs) hb, ih h]

theorem measure_bodies_le : (bodies halts r).2.measure ≤ r.measure := by
  fun_induction bodies halts r with
  | case1 r hr => exact Nat.le_refl _
  | case2 r s hr ih => exact Nat.le_trans ih (Nat.le_of_lt (measure_step hr))
  | case3 r body s hr hb => exact Nat.le_of_lt (measure_step hr)
  | case4 r body s hr hb rest t ht ih =>
    rw [ht] at ih
    exact Nat.le_trans ih (Nat.le_of_lt (measure_step hr))

/-- Only a reader that can make no step stays as it is. -/
theorem bodies_eq_self_iff : (bodies halts r).2 = r ↔ r.step = none := by
  refine ⟨fun hsame => ?_, fun hstuck => by rw [bodies_of_stuck hstuck]⟩
  rcases hstep : r.step with _ | ⟨m, s⟩
  · rfl
  · have hless : s.measure < r.measure := measure_step hstep
    have hkept : (bodies halts r).2.measure ≤ s.measure := by
      cases m with
      | none =>
        rw [bodies_of_header hstep]
        exact measure_bodies_le
      | some body =>
        cases hb : halts body with
        | true => exact Nat.le_of_eq (congrArg (·.2.measure) (bodies_of_halting hstep hb))
        | false =>
          rw [bodies_of_body hstep hb]
          exact measure_bodies_le
    rw [hsame] at hkept
    omega

end

/-! ## Pieces -/

/-- Takes octets piece by piece: the messages that all pieces complete, and the reader after
them. -/
def feedAll : Reader → List Bytes → List Fields × Reader
  | r, [] => ([], r)
  | r, piece :: rest =>
    let (ms, s) := r.feed piece
    let (ns, t) := feedAll s rest
    (ms ++ ns, t)

theorem feed_append (r : Reader) (a b : Bytes) :
    r.feed (a ++ b) =
      ((r.feed a).1 ++ ((r.feed a).2.feed b).1, ((r.feed a).2.feed b).2) := by
  have hnone : (bodies (fun _ => false) (r.extend a)).1.any (fun _ => false) = false := by simp
  simp only [feed_eq, extend_append, bodies_extend hnone, List.filterMap_append]

theorem feedAll_cons (r : Reader) (piece : Bytes) (rest : List Bytes) :
    r.feedAll (piece :: rest) = r.feed (piece ++ rest.flatten) := by
  induction rest generalizing r piece with
  | nil => simp [feedAll]
  | cons next rest ih =>
    have hcons : r.feedAll (piece :: next :: rest) =
        ((r.feed piece).1 ++ ((r.feed piece).2.feedAll (next :: rest)).1,
          ((r.feed piece).2.feedAll (next :: rest)).2) := rfl
    rw [hcons, ih, List.flatten_cons, feed_append r piece]

end Reader

end Legible.Frame
