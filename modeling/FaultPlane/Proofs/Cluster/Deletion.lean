import FaultPlane.Cluster.Kubectl
import FaultPlane.Proofs.Text.Lowering

/-!
# Outcomes of deletions

A deletion that fails counts as one that succeeds if the program says that there is nothing to
delete. This is looked up in one text, put together from both streams. It is there if it is in one
of the streams as they are: trimming takes away no part of it, and no part of it is on the line
break between the streams (`deletion_counts_iff`).
-/

namespace FaultPlane.Cluster

open Injection (ResourceKind)
open Text (OccursIn Plain SigmaRule Unpadded asciiLower lower)
open Text.Utf8 (decodeLossy)

section

variable {pat : String} (hne : pat ≠ "")

include hne

theorem not_occursIn_empty : ¬ OccursIn pat (asciiLower "") := by
  rw [Text.occursIn_iff, Text.toList_asciiLower]
  intro inside
  exact Text.toList_ne_nil hne (List.infix_nil.1 inside)

theorem occursIn_combined (oneLine : '\n' ∉ pat.toList) (stdout stderr : String) :
    OccursIn pat (asciiLower (combined stdout stderr)) ↔
      OccursIn pat (asciiLower stdout) ∨ OccursIn pat (asciiLower stderr) := by
  unfold combined
  split
  · next empty =>
    rw [empty, or_iff_left (not_occursIn_empty hne)]
  · split
    · next empty =>
      rw [empty, or_iff_right (not_occursIn_empty hne)]
    · have hlist : (asciiLower (stdout ++ "\n" ++ stderr)).toList =
          (asciiLower stdout).toList ++ '\n' :: (asciiLower stderr).toList := by
        simp [Text.toList_asciiLower]
      rw [Text.occursIn_iff, hlist, Text.infix_across oneLine, ← Text.occursIn_iff,
        ← Text.occursIn_iff]

/-- What is done to the streams makes no difference to what is found in them. -/
theorem occursIn_streams (final : SigmaRule) (plain : ∀ c ∈ pat.toList, Plain c)
    (bare : Unpadded pat) (oneLine : '\n' ∉ pat.toList) (stdout stderr : List UInt8) :
    OccursIn pat (lower final (combined (streamText stdout) (streamText stderr))) ↔
      OccursIn pat (lower final (decodeLossy stdout)) ∨
        OccursIn pat (lower final (decodeLossy stderr)) := by
  simp only [Text.occursIn_lower_iff final plain]
  rw [occursIn_combined hne oneLine, streamText, streamText,
    Text.occursIn_asciiLower_trim hne bare, Text.occursIn_asciiLower_trim hne bare]

end

/-- Whether a stream says that there is no such resource. -/
def SaysNotFound (final : SigmaRule) (stream : List UInt8) : Prop :=
  OccursIn "not found" (lower final (decodeLossy stream))

theorem plain_notFound : ∀ c ∈ "not found".toList, Plain c := by simp [Plain]

theorem unpadded_notFound : Unpadded "not found" := by simp [Unpadded, Text.isBlank]

theorem saysNotFound_combined (final : SigmaRule) (stdout stderr : List UInt8) :
    OccursIn "not found" (lower final (combined (streamText stdout) (streamText stderr))) ↔
      SaysNotFound final stdout ∨ SaysNotFound final stderr :=
  occursIn_streams (by decide) final plain_notFound unpadded_notFound (by simp) stdout stderr

/-- A deletion counts if the program was run to its end and either succeeded or says that there is
no such resource, on one of its streams. In the text that is put together from the streams it is
said just if it is said on one of them. -/
theorem deletion_counts_iff (k : Kubectl) (final : SigmaRule) (kind : ResourceKind)
    (name namespaceName : String) :
    (∀ outcome, k.answer outcome (.delete kind name namespaceName) = true ↔
      ∃ success stdout stderr, outcome = .ended success stdout stderr ∧
        (success = true ∨ SaysNotFound final stdout ∨ SaysNotFound final stderr)) ∧
      ∀ stdout stderr,
        OccursIn "not found" (lower final (combined (streamText stdout) (streamText stderr))) ↔
          SaysNotFound final stdout ∨ SaysNotFound final stderr := by
  refine ⟨fun outcome => ?_, saysNotFound_combined final⟩
  have hanswer : k.answer outcome (.delete kind name namespaceName) = isGone outcome := rfl
  rw [hanswer]
  cases outcome with
  | notStarted reason => simp [isGone]
  | brokenOff reason => simp [isGone]
  | timedOut => simp [isGone]
  | ended success stdout stderr =>
    cases success with
    | true => simp [isGone]
    | false =>
      rw [isGone, Text.containsIgnoringCase_iff,
        ← Text.occursIn_lower_iff final plain_notFound, saysNotFound_combined]
      simp

example : isGone (.ended false (Text.Utf8.encode "not ") (Text.Utf8.encode "found")) = false := by
  decide

end FaultPlane.Cluster
