import TelemetryRelay.Envelope
import TelemetryRelay.Proofs.Utf8

/-!
The digest of tags does not see their order, and it tells any other difference: tags that differ
have different digests, or else two of the byte strings that were hashed collide.
-/

namespace TelemetryRelay

namespace Sha256

/-- Two different byte strings among these have one digest. -/
def Collides (inputs : List (List UInt8)) : Prop :=
  ∃ first ∈ inputs, ∃ second ∈ inputs, first ≠ second ∧ hash first = hash second

theorem Collides.mono {inputs more : List (List UInt8)} (collides : Collides inputs)
    (subset : inputs ⊆ more) : Collides more := by
  obtain ⟨first, firstMember, second, secondMember, collision⟩ := collides
  exact ⟨first, subset firstMember, second, subset secondMember, collision⟩

theorem eq_or_collides {inputs : List (List UInt8)} {first second : List UInt8}
    (firstMember : first ∈ inputs) (secondMember : second ∈ inputs)
    (same : hash first = hash second) : first = second ∨ Collides inputs := by
  by_cases equal : first = second
  · exact Or.inl equal
  · exact Or.inr ⟨first, firstMember, second, secondMember, equal, same⟩

theorem lists_eq_or_collides {inputs firsts seconds : List (List UInt8)}
    (firstMembers : firsts ⊆ inputs) (secondMembers : seconds ⊆ inputs)
    (same : firsts.map hash = seconds.map hash) : firsts = seconds ∨ Collides inputs := by
  induction firsts generalizing seconds with
  | nil =>
      rw [List.map_nil, eq_comm, List.map_eq_nil_iff] at same
      exact Or.inl same.symm
  | cons first firsts ih =>
      cases seconds with
      | nil => cases same
      | cons second seconds =>
          obtain ⟨head, rest⟩ := List.cons.inj same
          obtain ⟨firstMember, firstMembers⟩ := List.cons_subset.mp firstMembers
          obtain ⟨secondMember, secondMembers⟩ := List.cons_subset.mp secondMembers
          rcases eq_or_collides firstMember secondMember head with equal | collides
          · rcases ih firstMembers secondMembers rest with equals | collides
            · exact Or.inl (by rw [equal, equals])
            · exact Or.inr collides
          · exact Or.inr collides

end Sha256

theorem Digest.flatMap_bytes_inj {left right : List Digest}
    (same : left.flatMap Digest.bytes = right.flatMap Digest.bytes) : left = right := by
  induction left generalizing right with
  | nil =>
      cases right with
      | nil => rfl
      | cons digest right =>
          have lengths := congrArg List.length same
          simp only [List.flatMap_nil, List.length_nil, List.flatMap_cons, List.length_append,
            length_bytes] at lengths
          omega
  | cons digest left ih =>
      cases right with
      | nil =>
          have lengths := congrArg List.length same
          simp only [List.flatMap_nil, List.length_nil, List.flatMap_cons, List.length_append,
            length_bytes] at lengths
          omega
      | cons other right =>
          rw [List.flatMap_cons, List.flatMap_cons] at same
          obtain ⟨head, rest⟩ := List.append_inj same (by rw [length_bytes, length_bytes])
          rw [bytes_inj head, ih rest]

namespace Tags

def joinedDigests (tags : Tags) : List UInt8 :=
  tags.sorted.flatMap fun tag => (Sha256.hash (Text.Utf8.encode tag)).bytes

/-- The byte strings that are hashed for the digest of the tags: every tag, and the joined digests
of all. -/
def hashed (tags : Tags) : List (List UInt8) :=
  tags.sorted.map Text.Utf8.encode ++ [tags.joinedDigests]

theorem digest_eq (tags : Tags) : tags.digest = Sha256.hash tags.joinedDigests := rfl

theorem sorted_perm (tags : Tags) : tags.sorted.Perm tags.written :=
  List.mergeSort_perm _ _

theorem ordered_sorted (tags : Tags) :
    tags.sorted.Pairwise fun first second => first ≤ second := by
  have sorted : tags.sorted.Pairwise fun first second => decide (first ≤ second) = true := by
    apply List.pairwise_mergeSort
    · intro first second third below above
      simp only [decide_eq_true_eq] at below above ⊢
      exact String.le_trans below above
    · intro first second
      simpa only [Bool.or_eq_true, decide_eq_true_eq] using String.le_total first second
  exact sorted.imp of_decide_eq_true

theorem sorted_eq_of_perm {left right : Tags} (same : left.written.Perm right.written) :
    left.sorted = right.sorted := by
  refine List.Perm.eq_of_pairwise ?_ left.ordered_sorted right.ordered_sorted
    (left.sorted_perm.trans (same.trans right.sorted_perm.symm))
  intro first second _ _ below above
  exact String.le_antisymm below above

theorem digest_eq_of_perm {left right : Tags} (same : left.written.Perm right.written) :
    left.digest = right.digest := by
  rw [digest_eq, digest_eq, joinedDigests, joinedDigests, sorted_eq_of_perm same]

theorem encode_sorted_subset (tags : Tags) : tags.sorted.map Text.Utf8.encode ⊆ tags.hashed :=
  List.subset_append_left _ _

theorem joinedDigests_mem (tags : Tags) : tags.joinedDigests ∈ tags.hashed :=
  List.mem_append_right _ List.mem_cons_self

theorem perm_or_collides {left right : Tags} (same : left.digest = right.digest) :
    left.written.Perm right.written ∨ Sha256.Collides (left.hashed ++ right.hashed) := by
  have leftSubset : left.hashed ⊆ left.hashed ++ right.hashed := List.subset_append_left _ _
  have rightSubset : right.hashed ⊆ left.hashed ++ right.hashed := List.subset_append_right _ _
  rcases Sha256.eq_or_collides (leftSubset left.joinedDigests_mem)
    (rightSubset right.joinedDigests_mem) same with joined | collides
  · have digests : (left.sorted.map Text.Utf8.encode).map Sha256.hash =
        (right.sorted.map Text.Utf8.encode).map Sha256.hash := by
      apply Digest.flatMap_bytes_inj
      rw [List.flatMap_map, List.flatMap_map, List.flatMap_map, List.flatMap_map]
      exact joined
    rcases Sha256.lists_eq_or_collides
      (List.Subset.trans left.encode_sorted_subset leftSubset)
      (List.Subset.trans right.encode_sorted_subset rightSubset) digests with encoded | collides
    · have sorted : left.sorted = right.sorted :=
        List.map_injective_iff.mpr (fun _ _ => Text.Utf8.encode_inj) encoded
      exact Or.inl (left.sorted_perm.symm.trans (sorted ▸ right.sorted_perm))
    · exact Or.inr collides
  · exact Or.inr collides

/-- The digest identifies the tags that have a value, each as `key=value` and as often as it occurs,
in no order: of a list of tags, and of the deployment, the job, the index, the address and the free
tags of an envelope. -/
theorem digest_identifies_tags (left right : List Tag) (first second : Envelope) :
    let labels (tags : List Tag) : List String :=
      (tags.filter fun tag => tag.value ≠ "").map fun tag => tag.key ++ "=" ++ tag.value
    let fixed (envelope : Envelope) : List Tag :=
      [⟨"deployment", envelope.deployment.getD ""⟩, ⟨"job", envelope.job.getD ""⟩,
        ⟨"index", envelope.index.getD ""⟩, ⟨"ip", envelope.ip.getD ""⟩]
    (((labels left).Perm (labels right) → (of left).digest = (of right).digest) ∧
      ((of left).digest = (of right).digest →
        (labels left).Perm (labels right) ∨
          Sha256.Collides ((of left).hashed ++ (of right).hashed))) ∧
      ((labels (fixed first ++ first.tags)).Perm (labels (fixed second ++ second.tags)) →
        first.seriesTags.digest = second.seriesTags.digest) ∧
      (first.seriesTags.digest = second.seriesTags.digest →
        (labels (fixed first ++ first.tags)).Perm (labels (fixed second ++ second.tags)) ∨
          Sha256.Collides (first.seriesTags.hashed ++ second.seriesTags.hashed)) :=
  ⟨⟨digest_eq_of_perm, perm_or_collides⟩, digest_eq_of_perm, perm_or_collides⟩

theorem digest_identifies_tags_repeated :
    let left : List Tag := [⟨"a", "1"⟩, ⟨"b", ""⟩, ⟨"c", "d=e"⟩, ⟨"a", "1"⟩]
    let right : List Tag := [⟨"c=d", "e"⟩, ⟨"a", "1"⟩, ⟨"a", "1"⟩]
    let joined : Envelope :=
      ⟨none, 0, none, some "b,ip=c", none, none, [], .other .logMessage⟩
    let apart : Envelope :=
      ⟨none, 0, none, some "b", none, some "c", [], .other .logMessage⟩
    (of left).digest = (of right).digest ∧
      (joined.seriesTags.digest ≠ apart.seriesTags.digest ∨
        Sha256.Collides (joined.seriesTags.hashed ++ apart.seriesTags.hashed)) := by
  intro left right joined apart
  obtain ⟨⟨same, -⟩, -, different⟩ := digest_identifies_tags left right joined apart
  refine ⟨same (by decide), ?_⟩
  by_cases equal : joined.seriesTags.digest = apart.seriesTags.digest
  · exact Or.inr ((different equal).resolve_left (by decide))
  · exact Or.inl equal

end Tags

end TelemetryRelay
