import Audience.Proofs.Order
import Mathlib.Data.Finset.Card
import Mathlib.Data.List.Induction

/-!
# The most common tags

A preview shows a sample of the tags of the records that it reaches. The tags
are counted in one pass over the records, and the counts are put in order.
`Preview.IsTop` says what a sample has to be, in terms of the tags alone: a tag
that is shown occurs more often than every tag that is shown later or not at
all, or as often and earlier.

- Counting is `tally_eq`: each tag once, in the order of first occurrence, with
  the number of its occurrences. The induction is on the tags from the back, as
  a tag that is counted comes behind those counted before.
- Sorting is `pairwise_ranked`: `ranked` is stable, so an order of the counts
  that it is given survives among equal ones.
- A sample of some size is the front of a larger one (`topTags_of_wider`), and all
  are the front of the one without a size.

`sample_is_top` puts this together for a preview.
-/

namespace Audience

namespace Preview

variable {tag : Text} {tags keys : List Text} {entry : Text × Nat} {counts : List (Text × Nat)}
  {size size' : Option Int}

/-! ## Counting -/

theorem eraseDups_concat (tags : List Text) (tag : Text) :
    (tags ++ [tag]).eraseDups
      = if tag ∈ tags then tags.eraseDups else tags.eraseDups ++ [tag] := by
  rw [List.eraseDups_append]
  split
  · rename_i hmem
    rw [List.removeAll, List.filter_cons_of_neg (by simp [hmem])]
    simp
  · rename_i hnew
    rw [List.removeAll, List.filter_cons_of_pos (by simp [hnew])]
    simp [List.eraseDups_cons]

/-- Counting one more tag. The tag gets a place of its own if it has none yet. -/
theorem count_tallied (hkeys : keys.Nodup) (hall : tag ∈ tags → tag ∈ keys) :
    count tag (keys.map fun t => (t, tags.count t))
      = (if tag ∈ keys then keys else keys ++ [tag]).map fun t => (t, (tags ++ [tag]).count t) := by
  have hcount : ∀ t, (tags ++ [tag]).count t = tags.count t + if tag = t then 1 else 0 := by
    intro t
    rw [List.count_append, List.count_singleton]
    simp
  induction keys with
  | nil =>
      have hnew : tags.count tag = 0 := List.count_eq_zero.2 fun hmem => by cases hall hmem
      simp [count, hcount, hnew]
  | cons t rest ih =>
      obtain ⟨hfirst, hrest⟩ := List.nodup_cons.1 hkeys
      rw [List.map_cons, count]
      by_cases htag : t = tag
      · -- the tag has its place here, and so nowhere else
        subst htag
        have hothers : ∀ u ∈ rest, (u, tags.count u) = (u, (tags ++ [t]).count u) := by
          intro u hu
          have hne : t ≠ u := fun heq => hfirst (heq ▸ hu)
          rw [hcount, if_neg hne, Nat.add_zero]
        rw [if_pos rfl, if_pos List.mem_cons_self, List.map_cons, hcount, if_pos rfl,
          List.map_congr_left hothers]
      · have hlater : tag ∈ t :: rest ↔ tag ∈ rest := by simp [Ne.symm htag]
        have hkept : (t, tags.count t) = (t, (tags ++ [tag]).count t) := by
          rw [hcount, if_neg (Ne.symm htag), Nat.add_zero]
        rw [if_neg htag, ih hrest fun hmem => hlater.1 (hall hmem), hkept]
        simp only [hlater]
        split <;> rfl

/-- Where a tag is first met decides about its place among the tags. -/
theorem pairwise_eraseDups (tags : List Text) :
    tags.eraseDups.Pairwise fun a b => tags.idxOf a < tags.idxOf b := by
  induction tags using List.reverseRecOn with
  | nil => exact List.Pairwise.nil
  | append_singleton tags tag ih =>
      have hsame : tags.eraseDups.Pairwise fun a b =>
          (tags ++ [tag]).idxOf a < (tags ++ [tag]).idxOf b := by
        refine ih.imp_of_mem fun ha hb hlt => ?_
        rwa [List.idxOf_append_of_mem (List.mem_eraseDups.1 ha),
          List.idxOf_append_of_mem (List.mem_eraseDups.1 hb)]
      rw [eraseDups_concat]
      split
      · exact hsame
      · rename_i hnew
        refine List.pairwise_append.2 ⟨hsame, List.pairwise_singleton _ _, fun a ha b hb => ?_⟩
        obtain rfl := List.mem_singleton.1 hb
        have hmem := List.mem_eraseDups.1 ha
        rw [List.idxOf_append_of_mem hmem, List.idxOf_append_of_notMem hnew]
        exact Nat.lt_of_lt_of_le (List.idxOf_lt_length_of_mem hmem) (Nat.le_add_right _ _)

theorem nodup_eraseDups (tags : List Text) : tags.eraseDups.Nodup := by
  refine (pairwise_eraseDups tags).imp fun hlt heq => ?_
  rw [heq] at hlt
  exact Nat.lt_irrefl _ hlt

/-- **Counting.** Each tag once, in the order of first occurrence, with the number
of its occurrences. -/
theorem tally_eq (tags : List Text) :
    tally tags = tags.eraseDups.map fun t => (t, tags.count t) := by
  induction tags using List.reverseRecOn with
  | nil => rfl
  | append_singleton tags tag ih =>
      rw [tally, List.foldl_append, List.foldl_cons, List.foldl_nil]
      change count tag (tally tags) = _
      rw [ih, count_tallied (nodup_eraseDups tags) List.mem_eraseDups.2, eraseDups_concat]
      simp only [List.mem_eraseDups]

/-! ## Sorting -/

theorem place_perm (entry : Text × Nat) (counts : List (Text × Nat)) :
    (place entry counts).Perm (entry :: counts) := by
  induction counts with
  | nil => exact .refl _
  | cons e rest ih =>
      rw [place]
      split
      · exact .refl _
      · exact (ih.cons e).trans (.swap entry e rest)

theorem ranked_perm (counts : List (Text × Nat)) : (ranked counts).Perm counts := by
  induction counts with
  | nil => exact .refl _
  | cons e rest ih => exact (place_perm e (ranked rest)).trans (ih.cons e)

/-- A greater count, or the same one and earlier in an order. -/
def Precedes (R : Text × Nat → Text × Nat → Prop) (a b : Text × Nat) : Prop :=
  b.2 < a.2 ∨ b.2 = a.2 ∧ R a b

variable {R : Text × Nat → Text × Nat → Prop}

theorem pairwise_place (h : counts.Pairwise (Precedes R)) (hfirst : ∀ e ∈ counts, R entry e) :
    (place entry counts).Pairwise (Precedes R) := by
  induction counts with
  | nil => exact List.pairwise_singleton _ _
  | cons e rest ih =>
      obtain ⟨he, hrest⟩ := List.pairwise_cons.1 h
      obtain ⟨hentry, hfirst⟩ := List.forall_mem_cons.1 hfirst
      rw [place]
      split
      · rename_i hle
        -- what comes behind the first entry that is not greater is not greater either
        refine List.pairwise_cons.2 ⟨List.forall_mem_cons.2 ⟨?_, fun r hr => ?_⟩, h⟩
        · exact (Nat.lt_or_eq_of_le hle).imp_right fun heq => ⟨heq, hentry⟩
        · have hr_le : r.2 ≤ e.2 := by
            rcases he r hr with hlt | ⟨heq, -⟩
            · exact Nat.le_of_lt hlt
            · exact Nat.le_of_eq heq
          refine (Nat.lt_or_eq_of_le (Nat.le_trans hr_le hle)).imp_right fun heq => ?_
          exact ⟨heq, hfirst r hr⟩
      · rename_i hgt
        refine List.pairwise_cons.2 ⟨fun r hr => ?_, ih hrest hfirst⟩
        rcases List.mem_cons.1 ((place_perm entry rest).mem_iff.1 hr) with rfl | hr
        · exact .inl (Nat.lt_of_not_le hgt)
        · exact he r hr

/-- **Sorting.** The counts descend, and those that are equal keep their order. -/
theorem pairwise_ranked (h : counts.Pairwise R) : (ranked counts).Pairwise (Precedes R) := by
  induction counts with
  | nil => exact List.Pairwise.nil
  | cons e rest ih =>
      obtain ⟨he, hrest⟩ := List.pairwise_cons.1 h
      exact pairwise_place (ih hrest) fun e' he' => he e' ((ranked_perm rest).mem_iff.1 he')

/-! ## The most common tags -/

/-- A tag is ahead of another: it occurs more often, or as often and earlier. -/
def Outranks (tags : List Text) (a b : Text) : Prop :=
  tags.count b < tags.count a ∨ tags.count b = tags.count a ∧ tags.idxOf a < tags.idxOf b

theorem topTags_none_perm (tags : List Text) : (topTags none tags).Perm tags.eraseDups := by
  have hperm := (ranked_perm (tally tags)).map Prod.fst
  have hkeys : (tally tags).map Prod.fst = tags.eraseDups := by
    rw [tally_eq, List.map_map]
    exact List.map_id _
  rwa [hkeys] at hperm

theorem nodup_topTags (tags : List Text) : (topTags none tags).Nodup :=
  (topTags_none_perm tags).nodup_iff.2 (nodup_eraseDups tags)

theorem mem_topTags : tag ∈ topTags none tags ↔ tag ∈ tags := by
  rw [(topTags_none_perm tags).mem_iff, List.mem_eraseDups]

theorem length_topTags (tags : List Text) :
    (topTags none tags).length = tags.toFinset.card := by
  rw [← List.toFinset_card_of_nodup (nodup_topTags tags)]
  congr 1
  ext tag
  rw [List.mem_toFinset, List.mem_toFinset, mem_topTags]

theorem pairwise_topTags (tags : List Text) : (topTags none tags).Pairwise (Outranks tags) := by
  have htally : (tally tags).Pairwise fun a b => tags.idxOf a.1 < tags.idxOf b.1 := by
    rw [tally_eq, List.pairwise_map]
    exact pairwise_eraseDups tags
  have hcount : ∀ e ∈ ranked (tally tags), e.2 = tags.count e.1 := by
    intro e he
    rw [(ranked_perm _).mem_iff, tally_eq, List.mem_map] at he
    obtain ⟨t, -, rfl⟩ := he
    rfl
  refine List.pairwise_map.2 ((pairwise_ranked htally).imp_of_mem fun {a b} ha hb h => ?_)
  rw [Precedes, hcount a ha, hcount b hb] at h
  exact h

/-- The second size leaves room for all tags that the first one does. -/
inductive Wider : Option Int → Option Int → Prop where
  | all (size : Option Int) : Wider size none
  | most {k k' : Int} (h : k ≤ k') : Wider (some k) (some k')

theorem topTags_of_wider (h : Wider size size') (tags : List Text) :
    topTags size tags <+: topTags size' tags := by
  cases h with
  | all =>
      cases size with
      | none => exact List.prefix_rfl
      | some k => exact List.take_prefix _ _
  | most h => exact List.take_prefix_take_left (Int.toNat_le_toNat h)

/-- The most common of some tags: as many as the size asks for and there are, each
of them once, and each ahead of the tags that follow it or are left out. -/
structure IsTop (size : Option Int) (tags sample : List Text) : Prop where
  nodup : sample.Nodup
  subset : ∀ tag ∈ sample, tag ∈ tags
  all : size = none → sample.length = tags.toFinset.card
  most : ∀ k, size = some k → (sample.length : Int) = min k tags.toFinset.card
  ranked : ∀ before a after, sample = before ++ a :: after →
    ∀ b ∈ tags, b ∈ after ∨ b ∉ sample → Outranks tags a b

/-- **The sample.** What is shown are the most common tags. -/
theorem isTop_topTags (hsize : ∀ k, size = some k → 1 ≤ k) (tags : List Text) :
    IsTop size tags (topTags size tags) := by
  obtain ⟨rest, hrest⟩ := topTags_of_wider (.all size) tags
  have hsub := (topTags_of_wider (.all size) tags).sublist
  refine ⟨hsub.nodup (nodup_topTags tags), fun tag h => mem_topTags.1 (hsub.subset h), ?_, ?_, ?_⟩
  · rintro rfl
    exact length_topTags tags
  · rintro k rfl
    have hk := hsize k rfl
    have hlength : (topTags (some k) tags).length = min k.toNat tags.toFinset.card := by
      rw [← length_topTags]
      exact List.length_take
    omega
  · intro before a after hsplit b hb hlater
    have hpairwise := pairwise_topTags tags
    rw [← hrest, hsplit, List.append_assoc, List.pairwise_append, List.cons_append,
      List.pairwise_cons] at hpairwise
    refine hpairwise.2.1.1 b (List.mem_append.2 (hlater.imp_right fun hout => ?_))
    rw [← mem_topTags, ← hrest, List.mem_append] at hb
    exact hb.resolve_left hout

theorem IsTop.eq_nil_iff {sample : List Text} (h : IsTop size tags sample)
    (hsize : ∀ k, size = some k → 1 ≤ k) : sample = [] ↔ tags = [] := by
  constructor
  · rintro rfl
    have hnone : tags.toFinset.card = 0 := by
      cases size with
      | none => exact (h.all rfl).symm
      | some k =>
          have hk := hsize k rfl
          have hlength := h.most k rfl
          rw [List.length_nil] at hlength
          omega
    exact (List.toFinset_eq_empty_iff _).1 (Finset.card_eq_zero.1 hnone)
  · rintro rfl
    exact List.eq_nil_iff_forall_not_mem.2 fun tag htag => List.not_mem_nil (h.subset tag htag)

/-! ## In a preview -/

variable {selection : Selection} {segment : Option Segment} {v clients : Value}
  {index : ClientIndex} {records : List Value} {preview : Preview}

/-- The tags of the records that a segment accepts, record by record. -/
def reachedTags (segment : Option Segment) (known : Option Kind) (index : ClientIndex)
    (records : List Value) : List Text :=
  (records.filter fun record =>
      Attempt.passed (Segment.acceptedBy segment (Context.ofRecord known index record))).flatMap
    fun record => tagsOf (Context.ofRecord known index record)

/-- Whether there is a preview does not depend on the size. -/
theorem exists_of_size (h : Preview.of selection (.list records) v clients size = .ok preview) :
    ∃ index segment, ClientIndex.ofValue clients = .ok index ∧ selection.resolve = .ok segment
      ∧ ∀ size', ∃ preview', Preview.of selection (.list records) v clients size' = .ok preview'
          ∧ preview'.sampleTags
              = sample segment size' (reachedTags segment (Kind.named? v) index records) := by
  obtain ⟨index, hindex, h'⟩ := Attempt.bind_eq_ok_iff.1 h
  obtain ⟨segment, hsegment, -⟩ := Attempt.bind_eq_ok_iff.1 h'
  refine ⟨index, segment, hindex, hsegment, fun size' => ?_⟩
  cases hkind : Kind.ofValue v with
  | error failure =>
      rw [of_kind_error hkind hindex hsegment] at h
      cases records with
      | nil => exact ⟨_, of_kind_error hkind hindex hsegment [] size', rfl⟩
      | cons record rest => cases h
  | ok known =>
      have hknown : Kind.named? v = known := by
        obtain ⟨_, hkey, rfl⟩ := Attempt.map_eq_ok_iff.1 hkind
        rw [Value.asKey] at hkey
        split at hkey
        · cases hkey
        · cases hkey
          rfl
      rw [of_eq_keep hkind hindex hsegment, Attempt.map_eq_ok_iff] at h
      obtain ⟨reached, hreached, -⟩ := h
      refine ⟨_, (of_eq_keep hkind hindex hsegment records size').trans (by rw [hreached]; rfl), ?_⟩
      rw [ofReached, hknown, reachedTags, (Attempt.keep_eq_ok_iff.1 hreached).2]

theorem sample_nil (hsize : ∀ k, size = some k → 1 ≤ k) (segment : Option Segment) :
    sample segment size [] = (segment.map Segment.sampleTags).getD [] := by
  rw [sample, ((isTop_topTags hsize []).eq_nil_iff hsize).2 rfl]
  rfl

theorem sample_of_ne_nil (hsize : ∀ k, size = some k → 1 ≤ k) (segment : Option Segment)
    (htags : tags ≠ []) : sample segment size tags = (topTags size tags).map .text := by
  have hne : topTags size tags ≠ [] :=
    fun hnil => htags (((isTop_topTags hsize tags).eq_nil_iff hsize).1 hnil)
  rw [sample, List.isEmpty_eq_false_iff.2 hne]
  rfl

theorem sample_of_wider (hsize : ∀ k, size = some k → 1 ≤ k) (h : Wider size size')
    (segment : Option Segment) (tags : List Text) :
    sample segment size tags <+: sample segment size' tags := by
  have hsize' : ∀ k, size' = some k → 1 ≤ k := by
    rintro k rfl
    cases h with
    | most hle => exact Int.le_trans (hsize _ rfl) hle
  by_cases htags : tags = []
  · rw [htags, sample_nil hsize, sample_nil hsize']
  · rw [sample_of_ne_nil hsize segment htags, sample_of_ne_nil hsize' segment htags]
    exact (topTags_of_wider h tags).map _

/-- **The sample of a preview.** If there is a preview with a size of one or more,
or with no size, its sample are the most common of the tags that the segment
reaches; if it reaches none, they are the tags saved with the segment. A preview
with a larger size shows them as well, and first. -/
theorem sample_is_top (hsize : ∀ k, size = some k → 1 ≤ k)
    (h : Preview.of selection (.list records) v clients size = .ok preview) :
    ∃ index segment, ClientIndex.ofValue clients = .ok index ∧ selection.resolve = .ok segment
      ∧ ∀ tags, tags = reachedTags segment (Kind.named? v) index records →
          (tags ≠ [] → ∃ sample : List Text, preview.sampleTags = sample.map .text
              ∧ IsTop size tags sample)
            ∧ (tags = [] → preview.sampleTags = (segment.map Segment.sampleTags).getD [])
            ∧ ∀ size', Wider size size' → ∃ preview',
                Preview.of selection (.list records) v clients size' = .ok preview'
                  ∧ preview.sampleTags <+: preview'.sampleTags := by
  obtain ⟨index, segment, hindex, hsegment, hsizes⟩ := exists_of_size h
  refine ⟨index, segment, hindex, hsegment, ?_⟩
  rintro tags htags
  simp only [← htags] at hsizes
  have hsample : preview.sampleTags = sample segment size tags := by
    obtain ⟨preview', hpreview', hsample⟩ := hsizes size
    rw [h] at hpreview'
    cases hpreview'
    exact hsample
  rw [hsample]
  refine ⟨fun hne => ⟨_, sample_of_ne_nil hsize segment hne, isTop_topTags hsize tags⟩, ?_,
    fun size' hwider => ?_⟩
  · rintro rfl
    exact sample_nil hsize segment
  · obtain ⟨preview', hpreview', hsample'⟩ := hsizes size'
    exact ⟨preview', hpreview', by rw [hsample']; exact sample_of_wider hsize hwider segment tags⟩

/-- Two clients in California with the tag `cats`, one of them twice with the tag
`vip`, and one in Nevada with more tags than both. -/
def coastRegulars : List Value :=
  [.object [("billingState", .text "CA"),
      ("tags", .list [.text "cats", .text "vip", .text "vip"])],
    .object [("billingState", .text "NV"),
      ("tags", .list [.text "dogs", .text "dogs", .text "dogs", .text "vip"])],
    .object [("billingState", .text "CA"),
      ("tags", .list [.object [("name", .text "dogs")], .text "cats"])]]

/-- Both `cats` and `vip` occur twice, and `cats` first. -/
theorem coastRegulars_sample :
    (∀ k : Int, some 2 = some k → 1 ≤ k)
      ∧ IsTop (some 2) ["cats", "vip", "vip", "dogs", "cats"] ["cats", "vip"]
      ∧ ∃ preview preview',
        Preview.of (Controls.only [Controls.californian]).segment (.list coastRegulars)
            (.text "client") .null (some 2) = .ok preview
          ∧ preview.sampleTags = [.text "cats", .text "vip"]
          ∧ Preview.of (Controls.only [Controls.californian]).segment (.list coastRegulars)
              (.text "client") .null none = .ok preview'
          ∧ preview.sampleTags <+: preview'.sampleTags := by
  have hsize : ∀ k : Int, some 2 = some k → 1 ≤ k := by
    rintro _ ⟨⟩
    decide
  obtain ⟨preview, hpreview, hsample⟩ : ∃ preview,
      Preview.of (Controls.only [Controls.californian]).segment (.list coastRegulars)
          (.text "client") .null (some 2) = .ok preview
        ∧ preview.sampleTags = [.text "cats", .text "vip"] := ⟨_, by rfl, by rfl⟩
  obtain ⟨index, segment, hindex, hsegment, htop⟩ := sample_is_top hsize hpreview
  have htags : reachedTags segment (Kind.named? (.text "client")) index coastRegulars
      = ["cats", "vip", "vip", "dogs", "cats"] := by
    cases hindex
    cases hsegment
    rfl
  obtain ⟨hshown, -, hwider⟩ := htop _ htags.symm
  obtain ⟨sample, hmap, hranked⟩ := hshown (by simp)
  obtain ⟨preview', hpreview', hfront⟩ := hwider none (.all _)
  have heq : sample = ["cats", "vip"] := by
    refine List.map_injective_iff.2 (fun _ _ => Value.text.inj) ?_
    rw [← hmap, hsample]
    rfl
  rw [heq] at hranked
  exact ⟨hsize, hranked, preview, preview', hpreview, hsample, hpreview', hfront⟩

end Preview

end Audience
