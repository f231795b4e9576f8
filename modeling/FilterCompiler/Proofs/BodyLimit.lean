import FilterCompiler.Proofs.IntegerNumeral
import FilterCompiler.Service
import Mathlib.Data.List.Induction

/-! What the limit on bodies goes by. A body is read piece by piece, and reading ends with the piece
that goes beyond the limit. Proved here: whatever the pieces are, a request is refused exactly if it
declares more bytes than the limit allows or its body has more; any other body is handed on whole,
and what is kept on the way is never above the limit. So the service answers a body in one way,
however it is divided. -/

namespace FilterCompiler.Service

/-- How many bytes pieces have together. -/
def totalSize : List ByteArray → Nat
  | [] => 0
  | piece :: rest => piece.size + totalSize rest

theorem totalSize_concat (pieces : List ByteArray) (piece : ByteArray) :
    totalSize (pieces ++ [piece]) = totalSize pieces + piece.size := by
  induction pieces with
  | nil => exact Nat.add_comm _ _
  | cons first rest ih => rw [List.cons_append, totalSize, totalSize, ih, Nat.add_assoc]

theorem size_content (r : Request) : r.content.size = totalSize r.pieces := by
  unfold Request.content
  induction r.pieces using List.reverseRecOn with
  | nil => rfl
  | append_singleton pieces piece ih =>
    rw [List.foldl_append, totalSize_concat, ← ih]
    exact ByteArray.size_append

namespace BodyLimit

variable {max : Nat} {r : Request} {pieces : List ByteArray} {i : Intake}

/-- Pieces are kept, and there are no more bytes in them than a limit allows. -/
structure Intake.Keeps (i : Intake) (max : Nat) (pieces : List ByteArray) : Prop where
  kept : i.kept.toList = pieces
  total : i.total = totalSize pieces
  within : i.total ≤ max

/-- A piece either goes beyond the limit or is kept with those before it. -/
theorem Intake.Keeps.take? (h : i.Keeps max pieces) (piece : ByteArray) :
    (i.take? max piece = none ∧ max < totalSize (pieces ++ [piece])) ∨
      ∃ j, i.take? max piece = some j ∧ j.Keeps max (pieces ++ [piece]) := by
  unfold Intake.take?
  dsimp only
  rw [totalSize_concat, ← h.total]
  split
  · next hbeyond => exact .inl ⟨rfl, hbeyond⟩
  · next hwithin =>
    refine .inr ⟨_, rfl, ?_, ?_, Nat.not_lt.1 hwithin⟩
    · rw [Array.toList_push, h.kept]
    · rw [totalSize_concat, ← h.total]

theorem gather_concat (max : Nat) (pieces : List ByteArray) (piece : ByteArray) :
    gather max (pieces ++ [piece]) = (gather max pieces).bind fun i => i.take? max piece := by
  simp [gather, List.foldlM_append]

/-- Pieces are either more than the limit allows or all kept. -/
theorem gather_cases (max : Nat) (pieces : List ByteArray) :
    (gather max pieces = none ∧ max < totalSize pieces) ∨
      ∃ i, gather max pieces = some i ∧ i.Keeps max pieces := by
  induction pieces using List.reverseRecOn with
  | nil => exact .inr ⟨{}, rfl, rfl, rfl, Nat.zero_le max⟩
  | append_singleton pieces piece ih =>
    rw [gather_concat]
    rcases ih with ⟨hnone, hbeyond⟩ | ⟨i, hi, hkeeps⟩
    · refine .inl ⟨by rw [hnone, Option.bind_none], ?_⟩
      rw [totalSize_concat]
      omega
    · rw [hi, Option.bind_some]
      exact hkeeps.take? piece

theorem keeps_of_gather (h : gather max pieces = some i) : i.Keeps max pieces := by
  rcases gather_cases max pieces with ⟨hnone, _⟩ | ⟨j, hj, hkeeps⟩
  · cases hnone.symm.trans h
  · cases hj.symm.trans h
    exact hkeeps

theorem content_of_gather (h : gather max r.pieces = some i) : i.content = r.content := by
  rw [Intake.content, Request.content, ← Array.foldl_toList, (keeps_of_gather h).kept]

/-- A request declares the integer that its header spells. -/
theorem declared?_eq_some_iff {n : Int} : declared? r = some n ↔
    ∃ shown, r.header? "content-length" = some shown ∧ Numeral.Spells shown.toList n := by
  have htoOption (x : Except Numeral.Problem Int) : x.toOption = some n ↔ x = .ok n := by
    cases x <;> simp [Except.toOption]
  simp only [declared?, Option.bind_eq_some_iff, htoOption, Numeral.integer_ten_eq_ok_iff]

/-- A request declares more bytes than a limit allows, or has more. -/
def IsBeyond (max : Nat) (r : Request) : Prop :=
  (∃ shown n, r.header? "content-length" = some shown ∧ Numeral.Spells shown.toList n ∧
    (max : Int) < n) ∨ max < totalSize r.pieces

theorem declares_iff : (declared? r).any (fun n => decide ((max : Int) < n)) = true ↔
    ∃ shown n, r.header? "content-length" = some shown ∧ Numeral.Spells shown.toList n ∧
      (max : Int) < n := by
  constructor
  · intro h
    cases hn : declared? r with
    | none => simp [hn] at h
    | some n =>
      obtain ⟨shown, hshown, hspells⟩ := declared?_eq_some_iff.1 hn
      exact ⟨shown, n, hshown, hspells, by simpa [hn] using h⟩
  · rintro ⟨shown, n, hshown, hspells, hlt⟩
    simpa [declared?_eq_some_iff.2 ⟨shown, hshown, hspells⟩] using hlt

/-- The body of a request that should have one is refused if there are too many bytes, and accepted
whole otherwise. -/
theorem accept_cases (max : Nat) (hbody : r.method ∈ ["POST", "PUT", "PATCH"]) :
    (IsBeyond max r ∧ accept max r = none) ∨
      (¬ IsBeyond max r ∧ accept max r = some r.content) := by
  have hexpects : expectsBody r.method = true := List.contains_iff_mem.2 hbody
  unfold accept IsBeyond
  rw [← declares_iff, hexpects]
  split
  · next hdeclared => exact .inl ⟨.inl hdeclared, rfl⟩
  · next hdeclared =>
    rcases gather_cases max r.pieces with ⟨hnone, hbeyond⟩ | ⟨i, hi, hkeeps⟩
    · exact .inl ⟨.inr hbeyond, by rw [if_pos rfl, hnone, Option.map_none]⟩
    · refine .inr ⟨?_, by rw [if_pos rfl, hi, Option.map_some, content_of_gather hi]⟩
      rw [not_or, Nat.not_lt, ← hkeeps.total]
      exact ⟨hdeclared, hkeeps.within⟩

theorem IsBeyond.of_content {pieces : List ByteArray}
    (h : Request.content { r with pieces } = r.content) (hbeyond : IsBeyond max r) :
    IsBeyond max { r with pieces } := by
  have hsize : totalSize pieces = totalSize r.pieces := by
    rw [← size_content r, ← h, size_content]
  exact hbeyond.imp_right fun hmore => hsize ▸ hmore

/-- What is accepted is a matter of the bytes. -/
theorem accept_eq_of_content (max : Nat) {pieces : List ByteArray}
    (h : Request.content { r with pieces } = r.content) :
    accept max { r with pieces } = accept max r := by
  by_cases hbody : r.method ∈ ["POST", "PUT", "PATCH"]
  · have hback : Request.content { { r with pieces } with pieces := r.pieces } =
      Request.content { r with pieces } := h.symm
    rcases accept_cases max hbody with ⟨hbeyond, haccept⟩ | ⟨hwithin, haccept⟩ <;>
      rcases accept_cases (r := { r with pieces }) max hbody with
        ⟨hbeyond', haccept'⟩ | ⟨hwithin', haccept'⟩
    · rw [haccept, haccept']
    · exact absurd (hbeyond.of_content h) hwithin'
    · exact absurd (hbeyond'.of_content hback) hwithin
    · rw [haccept, haccept', h]
  · have hexpects : expectsBody r.method = false := by
      rw [← Bool.not_eq_true]
      exact fun h => hbody (List.contains_iff_mem.1 h)
    unfold accept
    dsimp only
    rw [hexpects, h]
    rfl

/-- Whatever answers the bodies behind a limit: a request is refused, with status 413, exactly if
it declares more bytes than the limit allows or its pieces have more together. Any other body is
answered as all pieces put together, and if that is never with status 413, the status tells which
it was. Other pieces with the same bytes have the same answer. However far reading has come, the
pieces so far are kept, they are not more than the limit allows, and reading goes on from them. -/
theorem guarded_goes_by_bytes (max : Nat) (r : Request)
    (hbody : r.method ∈ ["POST", "PUT", "PATCH"]) :
    (accept max r = none ↔ IsBeyond max r) ∧ (refusal max).status = 413 ∧
    (∀ {ε : Type} (answer : ByteArray → Except ε Response),
      (IsBeyond max r → guarded max answer r = .ok (refusal max)) ∧
      (¬ IsBeyond max r → guarded max answer r = answer r.content) ∧
      ((∀ body response, answer body = .ok response → response.status ≠ 413) →
        ((∃ response, guarded max answer r = .ok response ∧ response.status = 413) ↔
          IsBeyond max r)) ∧
      ∀ pieces, Request.content { r with pieces } = r.content →
        guarded max answer { r with pieces } = guarded max answer r) ∧
    ∀ seen rest i, r.pieces = seen ++ rest → gather max seen = some i →
      i.kept.toList = seen ∧ totalSize i.kept.toList ≤ max ∧
        gather max r.pieces = rest.foldlM (Intake.take? max) i := by
  have hiff : accept max r = none ↔ IsBeyond max r := by
    rcases accept_cases max hbody with ⟨hbeyond, hnone⟩ | ⟨hwithin, hsome⟩
    · exact iff_of_true hnone hbeyond
    · exact iff_of_false (by simp [hsome]) hwithin
  refine ⟨hiff, rfl, fun answer => ?_, fun seen rest i hpieces hi => ?_⟩
  · have hrefused (h : IsBeyond max r) : guarded max answer r = .ok (refusal max) := by
      rw [guarded, hiff.2 h]
    have hanswered (h : ¬ IsBeyond max r) : guarded max answer r = answer r.content := by
      rcases accept_cases max hbody with ⟨hbeyond, _⟩ | ⟨_, hsome⟩
      · exact absurd hbeyond h
      · rw [guarded, hsome]
    refine ⟨hrefused, hanswered, fun hanswer => ⟨?_, fun h => ⟨_, hrefused h, rfl⟩⟩, ?_⟩
    · rintro ⟨response, hresponse, hstatus⟩
      by_contra h
      exact hanswer _ _ ((hanswered h).symm.trans hresponse) hstatus
    · intro pieces hcontent
      rw [guarded, guarded, accept_eq_of_content max hcontent]
  · have hkeeps := keeps_of_gather hi
    refine ⟨hkeeps.kept, ?_, ?_⟩
    · rw [hkeeps.kept, ← hkeeps.total]
      exact hkeeps.within
    · rw [gather] at hi
      rw [gather, hpieces, List.foldlM_append, hi, Option.bind_eq_bind, Option.bind_some]

/-- Five bytes in two pieces and an empty one, of which three are declared. -/
def dividedMessage : Request :=
  { method := "POST", path := "/compile", headers := [("Content-Length", " +0_3 ")]
    pieces := ["abc".toUTF8, "".toUTF8, "de".toUTF8] }

/-- The five bytes are what a limit of five goes by, and they are the same bytes in one piece; to a
limit of four they are too many. -/
theorem dividedMessage_goes_by_bytes :
    dividedMessage.method ∈ ["POST", "PUT", "PATCH"] ∧
      (∀ answer : ByteArray → Answer,
        guarded 5 answer dividedMessage = answer "abcde".toUTF8 ∧
        guarded 5 answer { dividedMessage with pieces := ["abcde".toUTF8] } =
          answer "abcde".toUTF8 ∧
        guarded 4 answer dividedMessage = .ok (refusal 4)) ∧
      ∃ i, gather 5 ["abc".toUTF8, "".toUTF8] = some i ∧ totalSize i.kept.toList ≤ 5 := by
  have hmethod : dividedMessage.method ∈ ["POST", "PUT", "PATCH"] := by decide
  have hcontent : dividedMessage.content = "abcde".toUTF8 := by decide +kernel
  have hdeclared : ¬ ∃ shown n, dividedMessage.header? "content-length" = some shown ∧
      Numeral.Spells shown.toList n ∧ (5 : Nat) < n := by
    rw [← declares_iff]
    decide +kernel
  have hwithin : ¬ IsBeyond 5 dividedMessage := not_or.2 ⟨hdeclared, by decide +kernel⟩
  have hbeyond : IsBeyond 4 dividedMessage := .inr (by decide +kernel)
  obtain ⟨_, _, hanswers, hmoments⟩ := guarded_goes_by_bytes 5 dividedMessage hmethod
  obtain ⟨_, _, hless, _⟩ := guarded_goes_by_bytes 4 dividedMessage hmethod
  refine ⟨hmethod, fun answer => ?_, ?_⟩
  · obtain ⟨_, hanswered, _, hdivision⟩ := hanswers answer
    have hwhole := (hanswered hwithin).trans (congrArg answer hcontent)
    exact ⟨hwhole, (hdivision ["abcde".toUTF8] (by decide +kernel)).trans hwhole,
      (hless answer).1 hbeyond⟩
  · obtain ⟨i, hi⟩ : ∃ i, gather 5 ["abc".toUTF8, "".toUTF8] = some i := ⟨_, rfl⟩
    exact ⟨i, hi, (hmoments _ ["de".toUTF8] i rfl hi).2.1⟩

end BodyLimit

/-- The service answers the bytes of a body and not the pieces in which they come. -/
theorem handle_eq_of_content (t : Tools) (s : Slot) {r : Request} {pieces : List ByteArray}
    (h : Request.content { r with pieces } = r.content) :
    handle t s { r with pieces } = handle t s r := by
  have hrouted : routed t s { r with pieces } = routed t s r := rfl
  rw [handle, handle, BodyLimit.guarded, BodyLimit.guarded, hrouted,
    BodyLimit.accept_eq_of_content BodyLimit.bytes h]

end FilterCompiler.Service
