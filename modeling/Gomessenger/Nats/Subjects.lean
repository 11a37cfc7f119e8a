import Gomessenger.Messenger.Address
import Gomessenger.Nats.Route

/-! When two namespaces can share a subject. -/

namespace Gomessenger.Nats

open Utf8 Dotted
open Json (intText)
open Messenger (Kind versionToken segments_address descriptor_parts)

variable {namespaceName name : Bytes} {kind : Kind}

theorem subjectOf_ok {subject : Bytes} {version : Int64}
    (accepted : subjectOf namespaceName kind name version = .ok subject) :
    kind.validWire = true ∧
      segments subject = segments namespaceName ++
        kind.text :: (segments name ++ [versionToken version]) := by
  unfold subjectOf at accepted
  split at accepted
  · cases accepted
  · split at accepted
    · cases accepted
    next fields =>
      have wire : kind.validWire = true := by
        simp only [not_or, Bool.not_eq_false] at fields
        exact fields.1
      split at accepted
      · cases accepted
      · rw [← Except.ok.inj accepted]
        exact ⟨wire, segments_address _ _ _ wire⟩

/-- The tokens of the second namespace begin with those of the first and go on
with a kind. -/
def Extends (first second : Bytes) : Prop :=
  ∃ kind rest, Kind.validWire kind = true ∧ segments second = segments first ++ kind.text :: rest

/-- Subjects of namespaces that do not extend each other tell their parts. -/
theorem subject_parts {first second other subject : Bytes} {otherKind : Kind}
    {version otherVersion : Int64} (apart : ¬ Extends first second ∧ ¬ Extends second first)
    (isFirst : subjectOf first kind name version = .ok subject)
    (isSecond : subjectOf second otherKind other otherVersion = .ok subject) :
    first = second ∧ kind = otherKind ∧ name = other ∧ version = otherVersion := by
  obtain ⟨wire, tokens⟩ := subjectOf_ok isFirst
  obtain ⟨otherWire, otherTokens⟩ := subjectOf_ok isSecond
  rw [tokens, List.append_eq_append_iff] at otherTokens
  rcases otherTokens with ⟨between, longer, rest⟩ | ⟨between, longer, rest⟩
  · cases between with
    | nil =>
      rw [List.append_nil] at longer
      exact ⟨(segments_injective longer).symm, descriptor_parts wire otherWire rest⟩
    | cons token between =>
      obtain ⟨rfl, _⟩ := List.cons.inj rest
      exact absurd ⟨kind, between, wire, longer⟩ apart.1
  · cases between with
    | nil =>
      rw [List.append_nil] at longer
      exact ⟨segments_injective longer, descriptor_parts wire otherWire rest.symm⟩
    | cons token between =>
      obtain ⟨rfl, _⟩ := List.cons.inj rest
      exact absurd ⟨otherKind, between, otherWire, longer⟩ apart.2

theorem validToken_plain {token : Bytes} (valid : validToken token = true) : dot ∉ token := by
  simp only [validToken, Bool.and_eq_true, Bool.not_eq_true', List.contains_eq_mem,
    decide_eq_false_iff_not] at valid
  exact valid.1.2

theorem namespace_tokens (valid : validateSubjectToken namespaceName true = true) :
    ∀ token ∈ segments namespaceName, validToken token = true := by
  simp only [validateSubjectToken, if_true, Bool.and_eq_true, List.all_eq_true] at valid
  exact valid.2

theorem subjectOf_accepts (valid : validateSubjectToken namespaceName true = true)
    (wire : kind.validWire = true)
    (filled : name ≠ []) (tokens : ∀ token ∈ segments name, validToken token = true) :
    subjectOf namespaceName kind name 1 = .ok (namespaceName ++ 0x2e :: (kind.text ++ 0x2e ::
      (name ++ ofString ".v" ++ intText (1 : Int64).toInt))) := by
  have all : (name.splitOn 0x2e).all (fun token => validateSubjectToken token false) = true := by
    simp only [List.all_eq_true, validateSubjectToken, Bool.false_eq_true, if_false]
    exact tokens
  unfold subjectOf
  rw [if_neg (by rw [valid]; decide), if_neg, if_neg (by rw [all]; decide)]
  simp [wire, filled]

theorem subject_shared {first second : Bytes} (isFirst : validateSubjectToken first true = true)
    (isSecond : validateSubjectToken second true = true) (longer : Extends first second) :
    ∃ kind name subject, subjectOf first kind name 1 = .ok subject ∧
      subjectOf second .event (ofString "a") 1 = .ok subject := by
  obtain ⟨kind, rest, wire, tokens⟩ := longer
  let parts := rest ++ [ofString "event", ofString "a"]
  have valid : ∀ token ∈ parts, validToken token = true := by
    intro token member
    rcases List.mem_append.mp member with inside | last
    · apply namespace_tokens isSecond
      rw [tokens]
      exact List.mem_append_right _ (.tail _ inside)
    · have literal : ∀ token ∈ [ofString "event", ofString "a"], validToken token = true := by
        decide +kernel
      exact literal token last
  have nonempty : parts ≠ [] := List.append_ne_nil_of_right_ne_nil _ (List.cons_ne_nil _ _)
  have split : segments (join parts) = parts :=
    segments_join (fun part member => validToken_plain (valid part member)) nonempty
  have filled : join parts ≠ [] := by
    intro empty
    have both : 2 ≤ parts.length := by simp [parts]
    rw [← split, empty] at both
    exact absurd both (by decide)
  have short : subjectOf second .event (ofString "a") 1 = _ :=
    subjectOf_accepts isSecond rfl (by decide) (by decide +kernel)
  refine ⟨kind, join parts, _, subjectOf_accepts isFirst wire filled (by rw [split]; exact valid),
    ?_⟩
  rw [short]
  congr 1
  apply segments_injective
  rw [segments_address _ _ _ rfl, segments_address _ _ _ wire, split, tokens]
  simp [parts, Kind.text, segments_plain (show dot ∉ ofString "a" by decide)]

theorem not_extends_self (name : Bytes) : ¬ Extends name name := by
  rintro ⟨kind, rest, _, tokens⟩
  have lengths := congrArg List.length tokens
  rw [List.length_append, List.length_cons] at lengths
  omega

/-- Two namespaces give no subject twice just when neither extends the other. -/
theorem subject_identifies_descriptor_iff (first second : Bytes)
    (isFirst : validateSubjectToken first true = true)
    (isSecond : validateSubjectToken second true = true) :
    (∀ kind otherKind name other version otherVersion subject,
      subjectOf first kind name version = .ok subject →
        subjectOf second otherKind other otherVersion = .ok subject →
        first = second ∧ kind = otherKind ∧ name = other ∧ version = otherVersion) ↔
      ¬ Extends first second ∧ ¬ Extends second first := by
  constructor
  · intro tells
    constructor
    · intro longer
      obtain ⟨_, _, _, isShort, isLong⟩ := subject_shared isFirst isSecond longer
      obtain ⟨rfl, _⟩ := tells _ _ _ _ _ _ _ isShort isLong
      exact not_extends_self first longer
    · intro longer
      obtain ⟨_, _, _, isShort, isLong⟩ := subject_shared isSecond isFirst longer
      obtain ⟨rfl, _⟩ := tells _ _ _ _ _ _ _ isLong isShort
      exact not_extends_self first longer
  · intro apart _ _ _ _ _ _ _ isFirst isSecond
    exact subject_parts apart isFirst isSecond

theorem subject_identifies_descriptor_iff_sample : ¬ Extends (ofString "shop")
    (ofString "media.prod") ∧
      ∀ kind otherKind name other version otherVersion subject,
        subjectOf (ofString "shop") kind name version = .ok subject →
        subjectOf (ofString "media.prod") otherKind other otherVersion = .ok subject →
        ofString "shop" = ofString "media.prod" ∧ kind = otherKind ∧ name = other ∧
          version = otherVersion := by
  have apart : ∀ first second : Bytes, (segments first).head? ≠ (segments second).head? →
      ¬ Extends first second := by
    rintro first second differ ⟨kind, rest, _, tokens⟩
    apply differ
    rw [tokens, List.head?_append_of_ne_nil _ (segments_ne_nil first)]
  have left := apart (ofString "shop") (ofString "media.prod") (by decide)
  have right := apart (ofString "media.prod") (ofString "shop") (by decide)
  exact ⟨left, (subject_identifies_descriptor_iff _ _ (by decide +kernel) (by decide +kernel)).mpr
    ⟨left, right⟩⟩

theorem namespaces_share_a_subject : ofString "a" ≠ ofString "a.event.b" ∧
      subjectOf (ofString "a") .event (ofString "b.event.c") 1 =
        .ok (ofString "a.event.b.event.c.v1") ∧
      subjectOf (ofString "a.event.b") .event (ofString "c") 1 =
        .ok (ofString "a.event.b.event.c.v1") := by
  refine ⟨by decide, ?_, ?_⟩ <;> decide +kernel

end Gomessenger.Nats
