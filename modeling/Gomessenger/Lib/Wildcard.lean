import Mathlib.Tactic.Common
import Mathlib.Tactic.Linarith

/-! Patterns of tokens with two wildcards: one stands for a single token, the
other, at the end of a pattern, for one token or more. -/

namespace Wildcard

variable {Token : Type} [DecidableEq Token] (one rest : Token)

def captures : List Token → List Token → Bool
  | [], subject => subject.isEmpty
  | token :: tokens, subject =>
    match subject with
    | [] => false
    | first :: others =>
      decide (token = rest) && tokens.isEmpty ||
        (decide (token = one) || decide (token = first)) && captures tokens others

def covers : List Token → List Token → Bool
  | [], current => current.isEmpty
  | token :: tokens, current =>
    if token = rest then tokens.isEmpty && !current.isEmpty
    else
      match current with
      | [] => false
      | first :: others =>
        if first = rest then false
        else if token = one then covers tokens others
        else if first = one ∨ token ≠ first then false
        else covers tokens others

/-- The wildcard for many tokens stands at the end only. -/
def Terminal (pattern : List Token) : Prop := ∀ before after,
    pattern = before ++ rest :: after → after = []

variable {one rest}

variable {tokens subject : List Token}

theorem captures_ne_nil {token : Token}
    (captured : captures one rest (token :: tokens) subject = true) : subject ≠ [] := by
  rintro rfl
  exact absurd captured (by simp [captures])

/-- What a covered pattern captures, the covering pattern captures. -/
theorem covers_captures {desired current : List Token}
    (covered : covers one rest desired current = true)
    (captured : captures one rest current subject = true) :
    captures one rest desired subject = true := by
  induction desired generalizing current subject with
  | nil =>
    cases current with
    | nil => exact captured
    | cons first others => exact absurd covered (by simp [covers])
  | cons token tokens ih =>
    cases current with
    | nil =>
      by_cases isRest : token = rest
      · exact absurd covered (by simp [covers, isRest])
      · exact absurd covered (by simp [covers, isRest])
    | cons first others =>
      obtain ⟨head, tail, rfl⟩ := List.exists_cons_of_ne_nil (captures_ne_nil captured)
      by_cases isRest : token = rest
      · have last : tokens.isEmpty = true := by
          simp only [covers, if_pos isRest, Bool.and_eq_true] at covered
          exact covered.1
        simp [captures, isRest, last]
      · simp only [covers, if_neg isRest] at covered
        split_ifs at covered with endless single differ
        · simp only [captures, endless, decide_false, Bool.false_and, Bool.false_or,
            Bool.and_eq_true] at captured
          have deeper := ih covered captured.2
          simp [captures, single, deeper]
        · simp only [not_or, not_not] at differ
          simp only [captures, endless, differ.1, decide_false, Bool.false_and, Bool.false_or,
            Bool.and_eq_true, decide_eq_true_eq] at captured
          have deeper := ih covered captured.2
          have same : token = head := differ.2.trans captured.1
          simp [captures, same, deeper]

omit [DecidableEq Token] in
theorem Terminal.tail {token : Token} (terminal : Terminal rest (token :: tokens)) :
    Terminal rest tokens := by
  intro before after split
  exact terminal (token :: before) after (by rw [split]; rfl)

section Exact

variable {Plain : Token → Prop}

def Pattern (one rest : Token) (Plain : Token → Prop) (pattern : List Token) : Prop :=
  Terminal rest pattern ∧ ∀ token ∈ pattern, token = one ∨ token = rest ∨ Plain token

variable {token : Token} {tokens : List Token}

omit [DecidableEq Token] in
theorem Pattern.tail (isPattern : Pattern one rest Plain (token :: tokens)) :
    Pattern one rest Plain tokens :=
  ⟨isPattern.1.tail, fun other member => isPattern.2 other (.tail _ member)⟩

omit [DecidableEq Token] in
theorem Pattern.last (isPattern : Pattern one rest Plain (rest :: tokens)) : tokens = [] :=
  isPattern.1 [] tokens rfl

theorem captures_single {head : Token} {tail : List Token} (bounded : token ≠ rest) :
    captures one rest (token :: tokens) (head :: tail) = true ↔
      (token = one ∨ token = head) ∧ captures one rest tokens tail = true := by
  simp [captures, bounded]

theorem captures_rest {head : Token} {tail : List Token} :
    captures one rest [rest] (head :: tail) = true := by
  simp [captures]

omit [DecidableEq Token] in
theorem Pattern.head (fresh : ∀ other, ∃ plain, Plain plain ∧ plain ≠ other)
    (isPattern : Pattern one rest Plain (token :: tokens)) (bounded : token ≠ rest)
    (avoided : Token) (differs : token ≠ avoided) : ∃ plain, Plain plain ∧
      (token = one ∨ token = plain) ∧ plain ≠ avoided := by
  rcases isPattern.2 token List.mem_cons_self with rfl | isRest | plain
  · obtain ⟨plain, isPlain, other⟩ := fresh avoided
    exact ⟨plain, isPlain, .inl rfl, other⟩
  · exact absurd isRest bounded
  · exact ⟨token, plain, .inr rfl, differs⟩

theorem Pattern.inhabited {pattern : List Token} (fresh : ∀ other, ∃ plain,
    Plain plain ∧ plain ≠ other)
    (isPattern : Pattern one rest Plain pattern) :
    ∃ subject, (∀ token ∈ subject, Plain token) ∧ captures one rest pattern subject = true := by
  induction pattern with
  | nil => exact ⟨[], by simp, rfl⟩
  | cons token tokens ih =>
    by_cases isRest : token = rest
    · subst isRest
      obtain ⟨plain, isPlain, _⟩ := fresh token
      rw [isPattern.last]
      exact ⟨[plain], by simpa using isPlain, captures_rest⟩
    · obtain ⟨subject, plains, captured⟩ := ih isPattern.tail
      obtain ⟨plain, isPlain, stands, _⟩ := isPattern.head fresh isRest rest isRest
      exact ⟨plain :: subject, List.forall_mem_cons.mpr ⟨isPlain, plains⟩,
        (captures_single isRest).mpr ⟨stands, captured⟩⟩

/-- A pattern that captures whatever another one captures covers it. -/
theorem covers_of_captures (fresh : ∀ other, ∃ plain, Plain plain ∧ plain ≠ other)
    {desired current : List Token}
    (isDesired : Pattern one rest Plain desired) (isCurrent : Pattern one rest Plain current)
    (inside : ∀ subject, (∀ token ∈ subject, Plain token) →
      captures one rest current subject = true →
      captures one rest desired subject = true) : covers one rest desired current = true := by
  induction desired generalizing current with
  | nil =>
    cases current with
    | nil => rfl
    | cons first others =>
      obtain ⟨subject, plains, captured⟩ := isCurrent.inhabited fresh
      obtain ⟨head, tail, rfl⟩ := List.exists_cons_of_ne_nil (captures_ne_nil captured)
      exact absurd (inside _ plains captured) (by simp [captures])
  | cons token tokens ih =>
    have filled : current ≠ [] := by
      rintro rfl
      exact absurd (inside [] (by simp) rfl) (by simp [captures])
    obtain ⟨first, others, rfl⟩ := List.exists_cons_of_ne_nil filled
    by_cases isRest : token = rest
    · subst isRest
      simp [covers, isDesired.last]
    · -- The head of a captured subject is chosen against the covering token.
      have chosen : ∀ head, Plain head → (first = one ∨ first = head) → first ≠ rest → ∀ tail,
          (∀ other ∈ tail, Plain other) → captures one rest others tail = true →
          (token = one ∨ token = head) ∧ captures one rest tokens tail = true := by
        intro head plain stands bounded tail plains captured
        exact (captures_single isRest).mp
          (inside (head :: tail) (List.forall_mem_cons.mpr ⟨plain, plains⟩)
          ((captures_single bounded).mpr ⟨stands, captured⟩))
      -- A final wildcard captures one token and two; a shorter pattern does not.
      have bounded : first ≠ rest := by
        rintro rfl
        obtain ⟨plain, isPlain, _⟩ := fresh first
        rw [isCurrent.last] at inside
        have alone :=
          (captures_single isRest).mp (inside [plain] (by simpa using isPlain) captures_rest)
        have twice :=
          (captures_single isRest).mp (inside [plain, plain] (by simpa using isPlain) captures_rest)
        cases tokens with
        | nil => exact absurd twice.2 (by simp [captures])
        | cons second tokens => exact absurd alone.2 (by simp [captures])
      obtain ⟨subject, plains, captured⟩ := isCurrent.tail.inhabited fresh
      have deeper : covers one rest tokens others = true := by
        refine ih isDesired.tail isCurrent.tail ?_
        intro tail tailPlains tailCaptured
        obtain ⟨head, plain, stands, _⟩ := isCurrent.head fresh bounded rest bounded
        exact (chosen head plain stands bounded tail tailPlains tailCaptured).2
      rw [covers, if_neg isRest]
      by_cases single : token = one
      · simp only [if_neg bounded, if_pos single, deeper]
      · have same : first = token := by
          by_contra differs
          obtain ⟨head, plain, stands, other⟩ := isCurrent.head fresh bounded token differs
          rcases (chosen head plain stands bounded subject plains captured).1 with isOne | isHead
          · exact single isOne
          · exact other isHead.symm
        have agree : ¬ (first = one ∨ token ≠ first) := by
          rw [same]
          simp [single]
        simp only [if_neg bounded, if_neg single, if_neg agree, deeper]

end Exact

end Wildcard
