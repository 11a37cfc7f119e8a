import Gomessenger.Kafka.TopicRecognition

/-! An accepted topology is complete: every consumer family has all its topics. -/

namespace Gomessenger.KafkaTopology

open Utf8 Fallible
open KafkaWire (invalidConfig retryTopic replayTopic dlqTopic Consumer)

def TopicSpec.key (topic : TopicSpec) : TopologyFamilyKey := ⟨topic.sourceTopic, topic.consumerID⟩

def TopicSpec.Serves (topic : TopicSpec) (key : TopologyFamilyKey) (role : TopicRole) : Prop :=
  topic.role = role ∧ topic.key = key

def Families.held (families : Families) (key : TopologyFamilyKey) : TopologyFamilyState :=
  (families.lookup key).getD ⟨[], false, false⟩

section Record

variable {families next : Families} {before topics : List TopicSpec} {topic : TopicSpec}

theorem Families.lookup_put (families : Families) (key other : TopologyFamilyKey)
    (family : TopologyFamilyState) :
    (families.put key family).lookup other = if other = key then some family
      else families.lookup other := by
  induction families with
  | nil =>
    by_cases same : other = key
    · simp [Families.put, same]
    · simp [Families.put, same, List.lookup_cons, beq_false_of_ne]
  | cons entry rest ih =>
    obtain ⟨name, state⟩ := entry
    by_cases here : name = key
    · by_cases same : other = key
      · simp [Families.put, here, same]
      · simp [Families.put, here, same, List.lookup_cons, beq_false_of_ne]
    · by_cases found : other = name
      · simp [Families.put, here, found]
      · simp [Families.put, here, found, List.lookup_cons, beq_false_of_ne, ih]

theorem Families.held_put (families : Families) (key other : TopologyFamilyKey)
    (family : TopologyFamilyState) :
    Families.held (families.put key family) other = if other = key then family
      else families.held other := by
  unfold Families.held
  rw [families.lookup_put]
  split_ifs <;> rfl

/-- The families record the topics before. -/
structure Recorded (before : List TopicSpec) (families : Families) : Prop where
  known : ∀ topic ∈ before, topic.role ≠ .source → (families.lookup topic.key).isSome = true
  tiers : ∀ key tier, tier ∈ (families.held key).retryTiers ↔
    ∃ topic ∈ before, topic.Serves key .retry ∧
      retryTopic key.source key.consumerID tier = .ok topic.name
  counted : ∀ key, (families.held key).retryTiers.length ≤ before.length
  replay : ∀ key, (families.held key).replay = true ↔ ∃ topic ∈ before, topic.Serves key .replay
  dlq : ∀ key, (families.held key).dlq = true ↔ ∃ topic ∈ before, topic.Serves key .dlq

theorem retryTopic_tier {source consumerID name : Bytes} {tier other : Int64}
    (isTopic : retryTopic source consumerID tier = .ok name)
    (isOther : retryTopic source consumerID other = .ok name) :
    tier = other := by
  rw [← retryTierFromTopic_iff] at isTopic isOther
  exact Except.ok.inj (isTopic.symm.trans isOther)

theorem exists_snoc {P : TopicSpec → Prop} :
    (∃ other ∈ before ++ [topic], P other) ↔ (∃ other ∈ before, P other) ∨ P topic := by
  simp [or_and_right, exists_or]

theorem Recorded.put (recorded : Recorded before families) {family : TopologyFamilyState}
    (tiers : ∀ tier, tier ∈ family.retryTiers ↔ tier ∈ (families.held topic.key).retryTiers ∨
      topic.role = .retry ∧ retryTopic topic.sourceTopic topic.consumerID tier = .ok topic.name)
    (counted : family.retryTiers.length ≤ (families.held topic.key).retryTiers.length + 1)
    (replay : family.replay = true ↔ (families.held topic.key).replay = true ∨ topic.role = .replay)
    (dlq : family.dlq = true ↔ (families.held topic.key).dlq = true ∨ topic.role = .dlq) :
    Recorded (before ++ [topic]) (families.put topic.key family) := by
  have serves : ∀ key role, topic.Serves key role ↔ topic.role = role ∧ key = topic.key :=
    fun key role => and_congr_right fun _ => eq_comm
  constructor
  · intro other member isService
    rw [families.lookup_put]
    split_ifs with same
    · rfl
    · rcases List.mem_append.mp member with earlier | here
      · exact recorded.known other earlier isService
      · exact absurd (congrArg TopicSpec.key (List.mem_singleton.mp here)) same
  · intro key tier
    rw [families.held_put, exists_snoc, ← recorded.tiers key tier, serves]
    by_cases same : key = topic.key
    · rw [if_pos same, tiers, same]
      simp [TopicSpec.key]
    · simp [same]
  · intro key
    rw [families.held_put, List.length_append, List.length_singleton]
    have least := recorded.counted key
    split_ifs with same
    · rw [same] at least
      omega
    · omega
  · intro key
    rw [families.held_put, exists_snoc, ← recorded.replay key, serves]
    by_cases same : key = topic.key
    · rw [if_pos same, replay, same]
      simp
    · simp [same]
  · intro key
    rw [families.held_put, exists_snoc, ← recorded.dlq key, serves]
    by_cases same : key = topic.key
    · rw [if_pos same, dlq, same]
      simp
    · simp [same]

theorem Recorded.step (recorded : Recorded before families)
    (accepted : recordFamilyTopic families topic = .ok next) :
    Recorded (before ++ [topic]) next := by
  have isKey : (⟨topic.sourceTopic, topic.consumerID⟩ : TopologyFamilyKey) = topic.key := rfl
  have isHeld : (families.lookup topic.key).getD ⟨[], false, false⟩ = families.held topic.key := rfl
  simp only [recordFamilyTopic, isKey, isHeld] at accepted
  cases role : topic.role with
  | source =>
    rw [role] at accepted
    rw [← Except.ok.inj accepted]
    have other : ∀ key wanted, wanted ≠ .source → ¬ topic.Serves key wanted :=
      fun key wanted isOther serves =>
      isOther (serves.1.symm.trans role)
    constructor
    · intro member inside isService
      rcases List.mem_append.mp inside with earlier | here
      · exact recorded.known member earlier isService
      · rw [List.mem_singleton.mp here] at isService
        exact absurd role isService
    · intro key tier
      rw [exists_snoc, recorded.tiers]
      simp [other key .retry]
    · intro key
      rw [List.length_append]
      exact Nat.le_add_right_of_le (recorded.counted key)
    · intro key
      rw [exists_snoc, recorded.replay]
      simp [other key .replay]
    · intro key
      rw [exists_snoc, recorded.dlq]
      simp [other key .dlq]
  | retry =>
    rw [role] at accepted
    obtain ⟨tier, isTier, accepted⟩ := bind_ok.mp accepted
    obtain ⟨_, accepted⟩ := check_ok.mp accepted
    rw [retryTierFromTopic_iff] at isTier
    rw [← Except.ok.inj accepted]
    refine recorded.put ?_ (le_refl _) (by simp [role]) (by simp [role])
    intro other
    rw [List.mem_cons, or_comm, role]
    refine or_congr_right ⟨?_, fun made => retryTopic_tier made.2 isTier⟩
    rintro rfl
    exact ⟨rfl, isTier⟩
  | replay =>
    simp only [role] at accepted
    split_ifs at accepted
    rw [← Except.ok.inj accepted]
    exact recorded.put (by simp [role]) (Nat.le_succ _) (by simp [role]) (by simp [role])
  | dlq =>
    simp only [role] at accepted
    split_ifs at accepted
    rw [← Except.ok.inj accepted]
    exact recorded.put (by simp [role]) (Nat.le_succ _) (by simp [role]) (by simp [role])
  | other text =>
    rw [role] at accepted
    cases accepted

structure Indexed (topics : List TopicSpec) (families : Families) :
    Prop extends Recorded topics families where
  names : (topics.map TopicSpec.name).Nodup
  valid : ∀ topic ∈ topics, validateTopicSpec topic = .ok ()

theorem indexFrom_indexed (accepted : indexFrom before families topics = .ok next)
    (indexed : Indexed before families) :
    Indexed (before ++ topics) next := by
  induction topics generalizing before families with
  | nil =>
    rw [← Except.ok.inj accepted, List.append_nil]
    exact indexed
  | cons topic rest ih =>
    unfold indexFrom at accepted
    obtain ⟨fresh, accepted⟩ := check_ok.mp accepted
    obtain ⟨_, valid, accepted⟩ := bind_ok.mp accepted
    obtain ⟨_, recorded, accepted⟩ := bind_ok.mp accepted
    rw [List.append_cons]
    refine ih accepted ⟨indexed.toRecorded.step recorded, ?_, ?_⟩
    · rw [List.map_append, List.map_singleton, List.nodup_append]
      refine ⟨indexed.names, List.nodup_singleton _, ?_⟩
      intro name member other isOther same
      rw [List.mem_singleton.mp isOther] at same
      exact fresh (same ▸ member)
    · intro other member
      rcases List.mem_append.mp member with earlier | here
      · exact indexed.valid other earlier
      · rw [List.mem_singleton.mp here]
        exact valid

theorem indexTopology_indexed (accepted : indexTopology topics = .ok families) :
    Indexed topics families := by
  have empty : Indexed [] [] :=
    ⟨⟨by simp, by simp [Families.held], by simp [Families.held], by simp [Families.held],
      by simp [Families.held]⟩, List.nodup_nil, by simp⟩
  exact indexFrom_indexed accepted empty

end Record

section Complete

theorem retry_index {T : Type} (consumer : Consumer T) {topic : Bytes}
    (member : topic ∈ consumer.retryTopics) :
    ∃ index < consumer.config.retryTiers.length,
      retryTopic consumer.sourceTopic consumer.config.consumerID (.ofNat index) = .ok topic := by
  obtain ⟨index, found⟩ := List.mem_iff_getElem?.mp member
  obtain ⟨inside, isTopic⟩ := List.getElem?_eq_some_iff.mp found
  have related := mapM_ok consumer.areRetries
  have small : index < (List.range consumer.config.retryTiers.length).length :=
    related.length_eq ▸ inside
  have made := (List.forall₂_iff_get.mp related).2 index small inside
  rw [List.get_eq_getElem, List.get_eq_getElem, isTopic, List.getElem_range] at made
  rw [List.length_range] at small
  exact ⟨index, small, made⟩

variable {topology : Topology} {topics : List TopicSpec} {families : Families}

/-- The name of a service topic is the one derived for its role. -/
def TopicSpec.Derived (topic : TopicSpec) : Prop :=
  (topic.role = .retry ∧ ∃ tier, retryTopic topic.sourceTopic topic.consumerID
    tier = .ok topic.name) ∨
    (topic.role = .replay ∧ replayTopic topic.sourceTopic topic.consumerID = .ok topic.name) ∨
    topic.role = .dlq ∧ dlqTopic topic.sourceTopic topic.consumerID = .ok topic.name

/-- The topics of a consumer family with the given number of retry tiers. -/
structure CompleteFamily (topics : List TopicSpec) (key : TopologyFamilyKey)
    (tiers : Nat) : Prop where
  tiered : 0 < tiers
  source : ∃ source ∈ topics, source.role = .source ∧ source.name = key.source ∧
    ∀ topic ∈ topics, topic.role ≠ .source → topic.key = key → topic.partitions = source.partitions
  retry : ∀ tier : Int64, (∃ topic ∈ topics, topic.Serves key .retry ∧
    retryTopic key.source key.consumerID tier = .ok topic.name) ↔
      0 ≤ tier.toInt ∧ tier.toInt < tiers
  replay : ∃! topic, topic ∈ topics ∧ topic.Serves key .replay
  dlq : ∃! topic, topic ∈ topics ∧ topic.Serves key .dlq

variable {topic : TopicSpec}

theorem validateExpectedName_ok {expected : Bytes} (filled : expected ≠ [])
    (accepted : validateExpectedName topic expected = .ok ()) : expected = topic.name := by
  unfold validateExpectedName at accepted
  split_ifs at accepted with differs
  by_contra other
  exact differs ⟨filled, fun same => other same.symm⟩

theorem consumerTopic_filled {source consumerID suffix topic : Bytes}
    (accepted : KafkaWire.consumerTopic source consumerID suffix = .ok topic) : topic ≠ [] :=
  (KafkaWire.validateTopicName_ok (KafkaWire.consumerTopic_named accepted)).1

theorem validateTopicSpec_derived (accepted : validateTopicSpec topic = .ok ())
    (service : topic.role ≠ .source) : topic.Derived := by
  unfold validateTopicSpec at accepted
  obtain ⟨_, _, accepted⟩ := bind_ok.mp accepted
  obtain ⟨_, _, accepted⟩ := bind_ok.mp accepted
  have named : ∀ spec : validateServiceTopicSpec topic = .ok (),
      validateServiceTopicName topic = .ok () := by
    intro spec
    unfold validateServiceTopicSpec at spec
    obtain ⟨_, _, spec⟩ := bind_ok.mp spec
    obtain ⟨_, _, spec⟩ := bind_ok.mp spec
    obtain ⟨_, _, spec⟩ := bind_ok.mp spec
    obtain ⟨_, name, _⟩ := bind_ok.mp spec
    exact name
  cases role : topic.role with
  | source => exact absurd role service
  | retry =>
    rw [role] at accepted
    have name := named accepted
    rw [validateServiceTopicName, role] at name
    obtain ⟨tier, isTier, _⟩ := bind_ok.mp name
    exact .inl ⟨role, tier, (retryTierFromTopic_iff ..).mp isTier⟩
  | replay =>
    rw [role] at accepted
    have name := named accepted
    rw [validateServiceTopicName, role] at name
    obtain ⟨expected, isExpected, same⟩ := bind_ok.mp name
    rw [validateExpectedName_ok (consumerTopic_filled isExpected) same] at isExpected
    exact .inr (.inl ⟨role, isExpected⟩)
  | dlq =>
    rw [role] at accepted
    have name := named accepted
    rw [validateServiceTopicName, role] at name
    obtain ⟨expected, isExpected, same⟩ := bind_ok.mp name
    rw [validateExpectedName_ok (consumerTopic_filled isExpected) same] at isExpected
    exact .inr (.inr ⟨role, isExpected⟩)
  | other text =>
    rw [role] at accepted
    cases accepted

variable {key : TopologyFamilyKey}

theorem lookup_mem {family : TopologyFamilyState}
    (found : families.lookup key = some family) : (key, family) ∈ families := by
  induction families with
  | nil => cases found
  | cons entry rest ih =>
    rw [List.lookup_cons] at found
    split at found
    next same =>
      rw [← Option.some.inj found, beq_iff_eq.mp same]
      exact List.mem_cons_self
    next => exact List.mem_cons_of_mem _ (ih found)

theorem forM_each {each : TopologyFamilyKey × TopologyFamilyState → Except GoError Unit}
    {entries : Families}
    (accepted : entries.forM each = .ok ()) : ∀ entry ∈ entries, each entry = .ok () := by
  induction entries with
  | nil => exact fun entry member => absurd member List.not_mem_nil
  | cons first rest ih =>
    unfold List.forM at accepted
    obtain ⟨value, here, later⟩ := bind_ok.mp accepted
    exact List.forall_mem_cons.mpr ⟨here, ih later⟩

theorem contiguous_tiers {tiers : List Int64} (few : tiers.length ≤ 4096)
    (contiguous : ∀ index < tiers.length, Int64.ofNat index ∈ tiers) (tier : Int64) :
    tier ∈ tiers ↔ 0 ≤ tier.toInt ∧ tier.toInt < tiers.length := by
  have numbered : ∀ index < tiers.length, (Int64.ofNat index).toInt = index := fun index small =>
    Int64.toInt_ofNat_of_lt (by omega)
  have counted : ((List.range tiers.length).map Int64.ofNat).Nodup := by
    refine List.Nodup.map_on ?_ List.nodup_range
    intro left isLeft right isRight same
    have numbers := congrArg Int64.toInt same
    rw [numbered left (List.mem_range.mp isLeft), numbered right (List.mem_range.mp isRight)]
      at numbers
    omega
  have inside : (List.range tiers.length).map Int64.ofNat ⊆ tiers := by
    intro other member
    obtain ⟨index, isIndex, rfl⟩ := List.mem_map.mp member
    exact contiguous index (List.mem_range.mp isIndex)
  have permuted : ((List.range tiers.length).map Int64.ofNat).Perm tiers :=
    (List.subperm_of_subset counted inside).perm_of_length_le (by simp)
  rw [← permuted.mem_iff, List.mem_map]
  constructor
  · rintro ⟨index, isIndex, rfl⟩
    have small := List.mem_range.mp isIndex
    rw [numbered index small]
    omega
  · rintro ⟨low, high⟩
    refine ⟨tier.toInt.toNat, List.mem_range.mpr (by omega), ?_⟩
    apply Int64.toInt_inj.mp
    rw [numbered _ (by omega)]
    omega

theorem Indexed.unique (indexed : Indexed topics families) {first second : TopicSpec}
    (isFirst : first ∈ topics)
    (isSecond : second ∈ topics) (same : first.name = second.name) : first = second :=
  List.inj_on_of_nodup_map indexed.names isFirst isSecond same

theorem Indexed.complete (indexed : Indexed topics families) (few : topics.length ≤ 4096)
    (valid : validateTopologyFamilies topics families = .ok ()) (member : topic ∈ topics)
    (service : topic.role ≠ .source) :
    CompleteFamily topics topic.key (families.held topic.key).retryTiers.length := by
  obtain ⟨family, found⟩ := Option.isSome_iff_exists.mp (indexed.known topic member service)
  have isHeld : families.held topic.key = family := by rw [Families.held, found, Option.getD_some]
  have accepted := forM_each valid _ (lookup_mem found)
  simp only [validateFamily] at accepted
  split at accepted
  · cases accepted
  next source isSource =>
    obtain ⟨role, accepted⟩ := check_ok.mp accepted
    obtain ⟨_, whole, partitions⟩ := bind_ok.mp accepted
    unfold validateCompleteFamily at whole
    obtain ⟨filled, whole⟩ := check_ok.mp whole
    have gapless : ¬ (List.range family.retryTiers.length).any
        (fun tier => decide (Int64.ofNat tier ∉ family.retryTiers)) = true := by
      intro gap
      rw [if_pos gap] at whole
      cases whole
    simp only [not_or, Bool.not_eq_false] at filled
    rw [isHeld]
    -- A role's topic name is computed from the key, and no two topics share a name.
    have only : ∀ wanted (name : Except GoError Bytes),
        (∀ other ∈ topics, other.Serves topic.key wanted → name = Except.ok other.name) →
        (∃ other ∈ topics, other.Serves topic.key wanted) →
        ∃! other, other ∈ topics ∧ other.Serves topic.key wanted := by
      rintro wanted (err | name) named ⟨other, isOther, serves⟩
      · cases named other isOther serves
      · refine ⟨other, ⟨isOther, serves⟩, ?_⟩
        rintro third ⟨isThird, alsoServes⟩
        exact indexed.unique isThird isOther
          (Except.ok.inj ((named third isThird alsoServes).symm.trans
          (named other isOther serves)))
    have derived : ∀ other ∈ topics, ∀ wanted, wanted ≠ .source → other.Serves topic.key wanted →
        other.Derived ∧ other.sourceTopic = topic.key.source ∧
            other.consumerID = topic.key.consumerID := by
      intro other isOther wanted isService serves
      refine ⟨validateTopicSpec_derived (indexed.valid other isOther)
        (by rw [serves.1]; exact isService), ?_, ?_⟩
      · rw [← serves.2]
        rfl
      · rw [← serves.2]
        rfl
    have named := List.find?_some isSource
    constructor
    · exact Nat.pos_of_ne_zero filled.1
    · refine ⟨source, List.mem_of_find?_eq_some isSource, not_not.mp role,
        of_decide_eq_true named, ?_⟩
      intro other isOther _ sameKey
      by_contra differs
      have listed : topics.any (fun topic' => decide (topic'.sourceTopic = topic.key.source ∧
          topic'.consumerID = topic.key.consumerID ∧ topic'.partitions ≠ source.partitions)) =
              true :=
        List.any_eq_true.mpr ⟨other, isOther,
          decide_eq_true ⟨by rw [← sameKey]; rfl, by rw [← sameKey]; rfl, differs⟩⟩
      rw [validateFamilyPartitions, if_pos listed] at partitions
      cases partitions
    · intro tier
      rw [← indexed.tiers, isHeld]
      have counted := indexed.counted topic.key
      rw [isHeld] at counted
      -- As many distinct tiers as topics, none missing below the count.
      refine contiguous_tiers (by omega) ?_ tier
      intro index small
      by_contra missing
      exact gapless (List.any_eq_true.mpr ⟨index, List.mem_range.mpr small, decide_eq_true missing⟩)
    · refine only .replay (replayTopic topic.key.source topic.key.consumerID) ?_
        ((indexed.replay topic.key).mp (by rw [isHeld]; exact filled.2.1))
      intro other isOther serves
      obtain ⟨isDerived, isSource, isConsumer⟩ := derived other isOther .replay (by decide) serves
      rcases isDerived with ⟨role, _⟩ | ⟨_, made⟩ | ⟨role, _⟩
      · exact absurd (serves.1.symm.trans role) (by decide)
      · rw [← isSource, ← isConsumer, made]
      · exact absurd (serves.1.symm.trans role) (by decide)
    · refine only .dlq (dlqTopic topic.key.source topic.key.consumerID) ?_
        ((indexed.dlq topic.key).mp (by rw [isHeld]; exact filled.2.2))
      intro other isOther serves
      obtain ⟨isDerived, isSource, isConsumer⟩ := derived other isOther .dlq (by decide) serves
      rcases isDerived with ⟨role, _⟩ | ⟨role, _⟩ | ⟨_, made⟩
      · exact absurd (serves.1.symm.trans role) (by decide)
      · exact absurd (serves.1.symm.trans role) (by decide)
      · rw [← isSource, ← isConsumer, made]

theorem validateTopology_indexed (accepted : validateTopology topology = .ok ()) :
    ∃ families, Indexed topology.topics families ∧ topology.topics.length ≤ 4096 ∧
      validateTopologyFamilies topology.topics families = .ok () := by
  unfold validateTopology at accepted
  obtain ⟨spec, accepted⟩ := check_ok.mp accepted
  obtain ⟨families, indexed, valid⟩ := bind_ok.mp accepted
  simp only [not_or, not_lt] at spec
  exact ⟨families, indexTopology_indexed indexed, spec.2.2, valid⟩

theorem CompleteFamily.serves {T : Type} {tiers : Nat} (indexed : Indexed topics families)
    (complete : CompleteFamily topics key tiers) (consumer : Consumer T)
    (source : consumer.sourceTopic = key.source)
    (consumerID : consumer.config.consumerID = key.consumerID)
    (enough : consumer.config.retryTiers.length ≤ tiers) (few : tiers ≤ 4096) :
    ∀ topic ∈ consumer.dlqTopic :: consumer.topics, topic ∈ topics.map TopicSpec.name := by
  have derived : ∀ {wanted : TopicRole} {other : TopicSpec},
      other ∈ topics → other.Serves key wanted →
      wanted ≠ .source → other.Derived ∧ other.sourceTopic = consumer.sourceTopic ∧
        other.consumerID = consumer.config.consumerID := by
    intro wanted other isOther serves isService
    rw [source, consumerID, ← serves.2]
    exact ⟨validateTopicSpec_derived (indexed.valid other isOther)
      (by rw [serves.1]; exact isService), rfl, rfl⟩
  rw [List.forall_mem_cons, Consumer.topics, List.forall_mem_cons]
  refine ⟨?_, ?_, ?_⟩
  · obtain ⟨other, ⟨isOther, serves⟩, _⟩ := complete.dlq
    obtain ⟨isDerived, isSource, isConsumer⟩ := derived isOther serves (by decide)
    rcases isDerived with ⟨role, _⟩ | ⟨role, _⟩ | ⟨_, made⟩
    · exact absurd (serves.1.symm.trans role) (by decide)
    · exact absurd (serves.1.symm.trans role) (by decide)
    · rw [isSource, isConsumer, consumer.isDlq] at made
      exact List.mem_map.mpr ⟨other, isOther, (Except.ok.inj made).symm⟩
  · obtain ⟨declared, isDeclared, _, named, _⟩ := complete.source
    exact List.mem_map.mpr ⟨declared, isDeclared, named.trans source.symm⟩
  · intro topic member
    rcases List.mem_append.mp member with retry | replay
    · obtain ⟨index, small, made⟩ := retry_index consumer retry
      have numbered : (Int64.ofNat index).toInt = index := Int64.toInt_ofNat_of_lt (by omega)
      obtain ⟨other, isOther, _, isTopic⟩ :=
        (complete.retry (Int64.ofNat index)).mpr ⟨by omega, by omega⟩
      rw [← source, ← consumerID, made] at isTopic
      exact List.mem_map.mpr ⟨other, isOther, (Except.ok.inj isTopic).symm⟩
    · obtain ⟨other, ⟨isOther, serves⟩, _⟩ := complete.replay
      obtain ⟨isDerived, isSource, isConsumer⟩ := derived isOther serves (by decide)
      rw [List.mem_singleton.mp replay]
      rcases isDerived with ⟨role, _⟩ | ⟨_, made⟩ | ⟨role, _⟩
      · exact absurd (serves.1.symm.trans role) (by decide)
      · rw [isSource, isConsumer, consumer.isReplay] at made
        exact List.mem_map.mpr ⟨other, isOther, (Except.ok.inj made).symm⟩
      · exact absurd (serves.1.symm.trans role) (by decide)

end Complete

theorem accepted_topology_is_complete {T : Type} (topology : Topology)
    (accepted : validateTopology topology = .ok ()) :
    (topology.topics.map TopicSpec.name).Nodup ∧ (∀ topic ∈ topology.topics,
      topic.role ≠ .source → topic.Derived) ∧
      ∀ topic ∈ topology.topics, topic.role ≠ .source → ∃ tiers,
        CompleteFamily topology.topics topic.key tiers ∧
          ∀ consumer : Consumer T, consumer.sourceTopic = topic.sourceTopic →
            consumer.config.consumerID = topic.consumerID →
              consumer.config.retryTiers.length ≤ tiers →
            ∀ name ∈ consumer.dlqTopic :: consumer.topics,
              name ∈ topology.topics.map TopicSpec.name := by
  obtain ⟨families, indexed, few, valid⟩ := validateTopology_indexed accepted
  refine ⟨indexed.names, fun topic member => validateTopicSpec_derived (indexed.valid topic member),
    ?_⟩
  intro topic member service
  have complete := indexed.complete few valid member service
  refine ⟨_, complete, ?_⟩
  intro consumer source consumerID enough
  exact complete.serves indexed consumer source consumerID enough
    ((indexed.counted topic.key).trans few)

def sampleSpec (name : Bytes) (role : TopicRole) (source consumerID : String) : TopicSpec :=
  ⟨name, role, ofString source, ofString consumerID, 3, 1, 1, -1, -1, 100000000⟩

def sampleTopology : Topology where
  specVersion := "1.0"
  topics :=
    [sampleSpec (ofString "a.event.b.v1.gm.c.dlq") .dlq "a.event.b.v1" "c",
      sampleSpec (ofString "a.event.b.v1.gm.c.retry.t0") .retry "a.event.b.v1" "c",
      sampleSpec (ofString "a.event.b.v1") .source "" "",
      sampleSpec (ofString "a.event.b.v1.gm.c.replay") .replay "a.event.b.v1" "c"]

theorem sampleTopology_complete :
    ∃ tiers, CompleteFamily sampleTopology.topics ⟨ofString "a.event.b.v1",
      ofString "c"⟩ tiers := by
  obtain ⟨tiers, complete, _⟩ :=
    (accepted_topology_is_complete (T := Unit) sampleTopology (by decide +kernel)).2.2
    (sampleSpec (ofString "a.event.b.v1.gm.c.dlq") .dlq "a.event.b.v1" "c")
      (by simp [sampleTopology]) (by decide)
  exact ⟨tiers, complete⟩

end Gomessenger.KafkaTopology
