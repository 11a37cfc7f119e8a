import Gomessenger.Lib.Wildcard
import Gomessenger.Nats.Subjects

/-! The subject patterns of streams and consumers, and which of them cover which. -/

namespace Gomessenger.NatsTopology

open Utf8
open Dotted (segments segments_join segments_ne_nil)
open Messenger (trimmed)
open Nats (validateSubjectToken validToken validToken_plain)

def anyToken : Bytes := ofString "*"

def anyTokens : Bytes := ofString ">"

def validPatternTokens : List Bytes → Bool
  | [] => true
  | token :: rest =>
    if token = anyToken then validPatternTokens rest
    else if token = anyTokens then rest.isEmpty && validPatternTokens rest
    else validateSubjectToken token false && validPatternTokens rest

def validateSubjectPattern (value : Bytes) : Bool :=
  value != [] && trimmed value && validPatternTokens (segments value)

def subjectPatternCovers (desired current : Bytes) : Bool :=
  Wildcard.covers anyToken anyTokens (segments desired) (segments current)

def isSubjectSuperset (desired current : List Bytes) : Bool :=
  current.all fun existing => desired.any fun candidate => subjectPatternCovers candidate existing

def streamSubjectsCoverFilter (subjects : List Bytes) (filter : Bytes) : Bool :=
  subjects.any fun subject => subjectPatternCovers subject filter

def Captures (subjects : List Bytes) (subject : Bytes) : Prop :=
  ∃ pattern ∈ subjects, Wildcard.captures anyToken anyTokens (segments pattern)
    (segments subject) = true

/-- A subject all of whose tokens are valid: no wildcard stands in it. -/
def Concrete (subject : Bytes) : Prop := ∀ token ∈ segments subject,
    validateSubjectToken token false = true

variable {tokens : List Bytes}

theorem validPatternTokens_terminal (valid : validPatternTokens tokens = true) :
    Wildcard.Terminal anyTokens tokens := by
  induction tokens with
  | nil =>
    intro before after split
    exact absurd split (by simp)
  | cons token rest ih =>
    intro before after split
    unfold validPatternTokens at valid
    cases before with
    | nil =>
      obtain ⟨rfl, rfl⟩ := List.cons.inj split
      rw [if_neg (by decide), if_pos rfl, Bool.and_eq_true, List.isEmpty_iff] at valid
      exact valid.1
    | cons first before =>
      obtain ⟨_, inside⟩ := List.cons.inj split
      refine ih ?_ before after inside
      split_ifs at valid
      · exact valid
      · exact (Bool.and_eq_true _ _ ▸ valid).2
      · exact (Bool.and_eq_true _ _ ▸ valid).2

theorem validPatternTokens_pattern (valid : validPatternTokens tokens = true) :
    Wildcard.Pattern anyToken anyTokens (fun token => validateSubjectToken token false = true)
      tokens := by
  refine ⟨validPatternTokens_terminal valid, ?_⟩
  induction tokens with
  | nil => exact fun token member => absurd member List.not_mem_nil
  | cons token rest ih =>
    unfold validPatternTokens at valid
    rw [List.forall_mem_cons]
    split_ifs at valid with single many
    · exact ⟨.inl single, ih valid⟩
    · exact ⟨.inr (.inl many), ih (Bool.and_eq_true _ _ ▸ valid).2⟩
    · exact ⟨.inr (.inr (Bool.and_eq_true _ _ ▸ valid).1), ih (Bool.and_eq_true _ _ ▸ valid).2⟩

theorem validateSubjectPattern_pattern {pattern : Bytes}
    (valid : validateSubjectPattern pattern = true) :
    Wildcard.Pattern anyToken anyTokens (fun token => validateSubjectToken token false = true)
    (segments pattern) := by
  unfold validateSubjectPattern at valid
  rw [Bool.and_eq_true] at valid
  exact validPatternTokens_pattern valid.2

theorem token_fresh (other : Bytes) : ∃ token,
    validateSubjectToken token false = true ∧ token ≠ other := by
  by_cases same : ofString "a" = other
  · exact ⟨ofString "b", by decide +kernel, same ▸ by decide⟩
  · exact ⟨ofString "a", by decide +kernel, same⟩

theorem isSubjectSuperset_captures {desired current : List Bytes}
    (superset : isSubjectSuperset desired current = true)
    {subject : Bytes} (captured : Captures current subject) : Captures desired subject := by
  obtain ⟨existing, member, captures⟩ := captured
  have covered := List.all_eq_true.mp superset existing member
  obtain ⟨candidate, isCandidate, covers⟩ := List.any_eq_true.mp covered
  exact ⟨candidate, isCandidate, Wildcard.covers_captures covers captures⟩

theorem streamSubjectsCoverFilter_captures {subjects : List Bytes} {filter : Bytes}
    (covered : streamSubjectsCoverFilter subjects filter = true) {subject : Bytes}
    (captured : Captures [filter] subject) : Captures subjects subject := by
  obtain ⟨candidate, isCandidate, covers⟩ := List.any_eq_true.mp covered
  obtain ⟨existing, member, captures⟩ := captured
  rw [List.mem_singleton.mp member] at captures
  exact ⟨candidate, isCandidate, Wildcard.covers_captures covers captures⟩

theorem captures_of_concrete {desired current : Bytes}
    (inside : ∀ subject, Concrete subject → Captures [current] subject → Captures [desired] subject)
    (tokens : List Bytes) (plain : ∀ token ∈ tokens, validateSubjectToken token false = true)
    (captured : Wildcard.captures anyToken anyTokens (segments current) tokens = true) :
    Wildcard.captures anyToken anyTokens (segments desired) tokens = true := by
  obtain ⟨first, others, isCurrent⟩ := List.exists_cons_of_ne_nil (segments_ne_nil current)
  have filled : tokens ≠ [] := Wildcard.captures_ne_nil (isCurrent ▸ captured)
  have joined := segments_join (fun token member => validToken_plain (plain token member)) filled
  obtain ⟨pattern, member, captures⟩ := inside (Dotted.join tokens)
    (by rw [Concrete, joined]; exact plain)
    ⟨current, List.mem_singleton_self _, by rw [joined]; exact captured⟩
  rw [List.mem_singleton.mp member, joined] at captures
  exact captures

theorem subject_coverage_exact :
    (∀ desired current, validateSubjectPattern desired = true →
      validateSubjectPattern current = true →
      (subjectPatternCovers desired current = true ↔
        ∀ subject, Concrete subject → Captures [current] subject → Captures [desired] subject)) ∧
      (∀ desired current, isSubjectSuperset desired current = true →
        ∀ subject, Captures current subject → Captures desired subject) ∧
      ∀ subjects filter, streamSubjectsCoverFilter subjects filter = true →
        ∀ subject, Captures [filter] subject → Captures subjects subject := by
  refine ⟨?_, fun _ _ superset _ => isSubjectSuperset_captures superset,
    fun _ _ covered _ => streamSubjectsCoverFilter_captures covered⟩
  intro desired current isDesired isCurrent
  constructor
  · intro covers subject _ captured
    obtain ⟨pattern, member, captures⟩ := captured
    rw [List.mem_singleton.mp member] at captures
    exact ⟨desired, List.mem_singleton_self _, Wildcard.covers_captures covers captures⟩
  · intro inside
    exact Wildcard.covers_of_captures token_fresh (validateSubjectPattern_pattern isDesired)
      (validateSubjectPattern_pattern isCurrent) (captures_of_concrete inside)

theorem subject_coverage_exact_sample :
    ∀ subject, Concrete subject → Captures [ofString "a.*.v1"] subject →
      Captures [ofString "a.>"] subject :=
  (subject_coverage_exact.1 (ofString "a.>") (ofString "a.*.v1")
    (by decide +kernel) (by decide +kernel)).mp
    (by decide +kernel)

end Gomessenger.NatsTopology
