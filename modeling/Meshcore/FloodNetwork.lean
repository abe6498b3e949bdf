import Mathlib.Algebra.BigOperators.Fin
import Meshcore.Adverts
import Meshcore.FloodAccount
import Meshcore.Lib.Network

/-!
# Floods in a network

Any number of nodes run this library, each with a host of its own, and take calls in any order. A
node hears a frame only when the radio of some node has got it; frames may be lost, delayed,
repeated and reordered. The account of each node, together with the memory of its duplicate filter,
says what becomes of a flood in the whole network.

## Main definitions

* `network` — the nodes, with what they hear and what their radios get

## Main results

* `accounted_of_run` — a node knows only floods that some node has sent
* `flood_in_network` — how often the nodes hand on a flood, and how many frames of it there are
* `hops_in_network` — how many hops these frames record
-/

namespace Meshcore

/-- Nodes with these hosts. -/
def network {ι : Type} (ctx : ι → Ctx) : Net ι World Op (List UInt8) where
  start _ := .boot
  next i op w := op.next (ctx i) w
  hears := Op.hears
  said := World.frames

section

variable {ι : Type} [DecidableEq ι] {ctx : ι → Ctx} {w : ι → World} {k : FloodKey}
  {sha : List UInt8 → PacketHash}

theorem reachable_of_run (h : (network ctx).Run w) (i : ι) : Reachable (ctx i) (w i) :=
  h.node (P := fun i => Reachable (ctx i)) (fun _ => ⟨[], rfl⟩) (fun _ op _ hr => hr.next op) i

/-- A node knows only floods that some node has sent. -/
theorem accounted_of_run (h : (network ctx).Run w) (i : ι) :
    (w i).Accounted fun k => ∃ j, .sent k ∈ (w j).trace := by
  refine (h.origin (fun H i t => Reachable (ctx i) t ∧ t.Accounted H) (fun t k => .sent k ∈ t.trace)
    frameFlood (fun _ => ⟨⟨[], rfl⟩, World.accounted_boot _⟩) (fun hle hP => ⟨hP.1, hP.2.mono hle⟩)
    ?_ ?_ ?_ i).2
  · intro H i t raw k hP hraw hk
    exact hP.2.sent_or_heard (List.mem_filterMap.mpr ⟨raw, hraw, hk⟩)
  · intro H i op t k hP hk
    exact (hP.1.trace_prefix_next op).subset hk
  · intro H i op t hP hheard
    exact ⟨hP.1.next op, hP.2.next hP.1 hheard⟩

/-- What only one node sends it does not hand on or retransmit before. -/
theorem sent_first_of_run (h : (network ctx).Run w) {o : ι}
    (honly : ∀ j, j ≠ o → .sent k ∉ (w j).trace) {m : Mark} (hm : m = .handed k ∨ m = .retransmit k)
    {a b : List Mark} (htrace : (w o).trace = a ++ m :: b) : .sent k ∈ a := by
  induction h generalizing a b with
  | start => exact absurd htrace (by simp [network, World.boot])
  | @step w h i op hheard ih =>
    have hgrows : ∀ j,
        (w j).trace <+: (Function.update w i ((network ctx).next i op (w i)) j).trace := by
      intro j
      by_cases hj : j = i
      · subst hj
        rw [Function.update_self]
        exact (reachable_of_run h j).trace_prefix_next op
      · rw [Function.update_of_ne hj]
    have honly' : ∀ j, j ≠ o → .sent k ∉ (w j).trace := fun j hj hk =>
      honly j hj ((hgrows j).subset hk)
    have hne : m ≠ .sent k := by
      rintro rfl
      simp at hm
    by_cases hoi : o = i
    · subst hoi
      have hgrown := hgrows o
      rw [Function.update_self] at htrace hgrown
      by_cases hsent : .sent k ∈ (w o).trace
      · -- The mark is an old one, or comes after the sending.
        have hpre : a ++ [m] <+: (op.next (ctx o) (w o)).trace := ⟨b, by
          rw [List.append_assoc]
          exact htrace.symm⟩
        rcases List.prefix_or_prefix_of_prefix hgrown hpre with hold | ⟨c, hc⟩
        · have hmem := hold.subset hsent
          simpa [hne.symm] using hmem
        · exact ih honly' (by rw [← hc, List.append_assoc]; rfl)
      · -- The node would know a flood that nobody has sent.
        have hnext : (op.next (ctx o) (w o)).Accounted fun k => ∃ j, .sent k ∈ (w j).trace := by
          refine (accounted_of_run h o).next (reachable_of_run h o) fun raw hraw k hk => ?_
          obtain ⟨j, hj⟩ := hheard raw hraw
          have hmem : k ∈ (w j).flooded := List.mem_filterMap.mpr ⟨raw, hj, hk⟩
          exact ((accounted_of_run h j).sent_or_heard hmem).elim (fun hk => ⟨j, hk⟩) id
        have hknows : (op.next (ctx o) (w o)).Knows k := by
          have hmem : m ∈ (op.next (ctx o) (w o)).trace := htrace ▸ List.mem_append_cons_self
          rcases hm with rfl | rfl
          · exact .inr (.inl hmem)
          · exact .inr (.inr hmem)
        obtain ⟨j, hj⟩ := hnext.known k hknows
        by_cases hjo : j = o
        · exact absurd (hjo ▸ hj) hsent
        · exact absurd hj (honly' j hjo)
    · rw [Function.update_of_ne hoi] at htrace
      exact ih honly' htrace

/-- A flood records no more hops than the other nodes and this one have retransmitted it. -/
theorem spread_of_run [Fintype ι] (h : (network ctx).Run w) (i : ι) :
    (w i).Spread fun k => ∑ j ∈ Finset.univ.erase i, (w j).trace.count (.retransmit k) := by
  induction h generalizing i with
  | start => exact World.spread_boot _
  | @step w h i' op hheard ih =>
    by_cases hi : i = i'
    · subst hi
      have hothers : ∀ k, ∑ j ∈ Finset.univ.erase i,
          (Function.update w i ((network ctx).next i op (w i)) j).trace.count (.retransmit k)
            = ∑ j ∈ Finset.univ.erase i, (w j).trace.count (.retransmit k) := fun k =>
        Finset.sum_congr rfl fun j hj => by rw [Function.update_of_ne (Finset.ne_of_mem_erase hj)]
      have hkeepsAccount : KeepsAccount (fun _ => True)
          (fun k => ∑ j ∈ Finset.univ.erase i, (w j).trace.count (.retransmit k)) (w i)
          (op.next (ctx i) (w i)) := by
        refine op.keepsAccount (reachable_of_run h i) fun raw hraw =>
          ⟨fun _ _ => trivial, fun x hx => ?_⟩
        obtain ⟨j, hj⟩ := hheard raw hraw
        have hsent : (w j).Within _ x := (ih j).sent x (List.mem_filterMap.mpr ⟨raw, hj, hx⟩)
        rw [World.Within, Finset.sum_erase_add _ _ (Finset.mem_univ _)] at hsent ⊢
        exact hsent
      simp only [hothers, Function.update_self]
      exact (hkeepsAccount.keeps ((accounted_of_run h i).mono fun _ _ => trivial) (ih i)).2
    · rw [Function.update_of_ne hi]
      refine (ih i).mono fun k => Finset.sum_le_sum fun j _ => ?_
      by_cases hj : j = i'
      · subst hj
        rw [Function.update_self]
        exact ((reachable_of_run h j).trace_prefix_next op).sublist.count_le _
      · rw [Function.update_of_ne hj]

theorem count_granted (t : List Mark) (k : FloodKey) :
    (t.filterMap grant).count k = t.count (.sent k) + t.count (.retransmit k) := by
  induction t with
  | nil => rfl
  | cons m t ih =>
    cases m with
    | sent k' =>
      have hgrant : grant (.sent k') = some k' := rfl
      rw [List.filterMap_cons_some hgrant, List.count_cons, List.count_cons, List.count_cons, ih]
      simp only [beq_iff_eq, FilterMark.sent.injEq, reduceCtorEq, if_false]
      omega
    | retransmit k' =>
      have hgrant : grant (.retransmit k') = some k' := rfl
      rw [List.filterMap_cons_some hgrant, List.count_cons, List.count_cons, List.count_cons, ih]
      simp only [beq_iff_eq, FilterMark.retransmit.injEq, reduceCtorEq, if_false]
      omega
    | _ =>
      rw [List.filterMap_cons_none rfl, ih, List.count_cons_of_ne (by simp),
        List.count_cons_of_ne (by simp)]

section

variable (hsha : ∀ i n data, ((ctx i).hooks n).sha256 packetHashSize data = some (sha data))
include hsha

theorem filtered_of_run (h : (network ctx).Run w) (i : ι) :
    Filtered (floodHash sha) Tables.init.hashes (w i).trace (w i).tables.hashes := by
  have : FixedHash (ctx i) sha := ⟨fun n data => by rw [Hooks.packetHash, hsha, Option.getD_some]⟩
  exact (reachable_of_run h i).filtersFloods.filtering

/-- What a node remembers it does not hand over again, and does not retransmit again. -/
theorem count_le_one_of_run (h : (network ctx).Run w) {i : ι} {m : Mark}
    (hm : m = .handed k ∨ m = .retransmit k)
    (hkept : Unforgotten (floodHash sha) tablesMaxPacketHashes k (w i).trace) :
    (w i).trace.count m ≤ 1 :=
  (filtered_of_run hsha h i).count_le_one_of_unforgotten hm hkept

/-- Nor what it has sent alone. -/
theorem not_mem_of_run (hnonzero : floodHash sha k ≠ Buf.zero _) (h : (network ctx).Run w) {o : ι}
    (honly : ∀ j, j ≠ o → .sent k ∉ (w j).trace)
    (hkept : Unforgotten (floodHash sha) tablesMaxPacketHashes k (w o).trace) {m : Mark}
    (hm : m = .handed k ∨ m = .retransmit k) : m ∉ (w o).trace := by
  have hstart : floodHash sha k ∉ Tables.init.hashes.slots := fun hzero =>
    hnonzero (List.eq_of_mem_replicate hzero)
  exact (filtered_of_run hsha h o).not_mem_of_unforgotten hm hstart hkept fun a b =>
    sent_first_of_run h honly hm

end

/-- **Floods in a network.** The nodes take their calls in any order, and hear frames that some
radio has got. No node hands on, retransmits or transmits a flood that no node has sent, and none
transmits it more often than it has sent and retransmitted it. While a node remembers the packet
hash of a flood, it hands it on at most once and retransmits it at most once. If all of them do, and
the flood is sent by one node only, then this node does not hand it on, and each of the others adds
at most one frame of it; for this its hash must not be the one that an empty slot of the filter
holds. -/
theorem flood_in_network [Fintype ι]
    (hsha : ∀ i n data, ((ctx i).hooks n).sha256 packetHashSize data = some (sha data))
    (h : (network ctx).Run w) (k : FloodKey) :
    (∀ i, (w i).Knows k ∨ k ∈ (w i).flooded → ∃ j, .sent k ∈ (w j).trace) ∧
    (∀ i, (w i).flooded.count k ≤ (w i).trace.count (.sent k) + (w i).trace.count (.retransmit k)) ∧
    (∀ i, Unforgotten (floodHash sha) tablesMaxPacketHashes k (w i).trace →
      (w i).trace.count (.handed k) ≤ 1 ∧ (w i).trace.count (.retransmit k) ≤ 1) ∧
    (floodHash sha k ≠ Buf.zero _ →
      (∀ i, Unforgotten (floodHash sha) tablesMaxPacketHashes k (w i).trace) →
      ∀ o, (∀ j, j ≠ o → .sent k ∉ (w j).trace) → .handed k ∉ (w o).trace ∧
        ∑ i, (w i).flooded.count k ≤ (w o).trace.count (.sent k) + (Fintype.card ι - 1)) := by
  have hframes : ∀ i, (w i).flooded.count k
      ≤ (w i).trace.count (.sent k) + (w i).trace.count (.retransmit k) := by
    intro i
    have hcount := (accounted_of_run h i).frames k
    rw [World.granted, count_granted] at hcount
    omega
  have honce : ∀ i, Unforgotten (floodHash sha) tablesMaxPacketHashes k (w i).trace →
      (w i).trace.count (.handed k) ≤ 1 ∧ (w i).trace.count (.retransmit k) ≤ 1 := fun i hkept =>
    ⟨count_le_one_of_run hsha h (.inl rfl) hkept, count_le_one_of_run hsha h (.inr rfl) hkept⟩
  refine ⟨fun i hi => ?_, hframes, honce, fun hnonzero hkept o honly => ?_⟩
  · rcases hi with hk | hk
    · exact (accounted_of_run h i).known k hk
    · exact ((accounted_of_run h i).sent_or_heard hk).elim (fun hsent => ⟨i, hsent⟩) id
  · have hown : ∀ m, m = .handed k ∨ m = .retransmit k → m ∉ (w o).trace := fun m =>
      not_mem_of_run hsha hnonzero h honly (hkept o)
    refine ⟨hown _ (.inl rfl), ?_⟩
    have horigin : (w o).flooded.count k ≤ (w o).trace.count (.sent k) := by
      have hle := hframes o
      rwa [List.count_eq_zero_of_not_mem (hown _ (.inr rfl)), Nat.add_zero] at hle
    have hothers : ∑ i ∈ Finset.univ.erase o, (w i).flooded.count k ≤ Fintype.card ι - 1 := by
      have hone : ∀ i ∈ Finset.univ.erase o, (w i).flooded.count k ≤ 1 := by
        intro i hi
        have hle := hframes i
        rw [List.count_eq_zero_of_not_mem (honly i (Finset.ne_of_mem_erase hi))] at hle
        exact hle.trans (by simpa using (honce i (hkept i)).2)
      have hsum := Finset.sum_le_card_nsmul _ _ _ hone
      rwa [Finset.card_erase_of_mem (Finset.mem_univ o), Finset.card_univ, smul_eq_mul,
        mul_one] at hsum
    rw [← Finset.add_sum_erase _ _ (Finset.mem_univ o)]
    exact Nat.add_le_add horigin hothers

/-- **How far a flood gets.** No frame of a flood records more hops than all the nodes together have
retransmitted it. If all of them remember its packet hash, it records no more hops than there are
nodes that have retransmitted it; and a node that has sent it alone is not among these, unless its
hash is the one that an empty slot of the filter holds. -/
theorem hops_in_network [Fintype ι]
    (hsha : ∀ i n data, ((ctx i).hooks n).sha256 packetHashSize data = some (sha data))
    (h : (network ctx).Run w) {i : ι} {raw : List UInt8} {n : ℕ} (hraw : raw ∈ (w i).frames)
    (hhops : frameHops raw = some (k, n)) :
    n ≤ ∑ j, (w j).trace.count (.retransmit k) ∧
    ((∀ j, Unforgotten (floodHash sha) tablesMaxPacketHashes k (w j).trace) →
      n ≤ (Finset.univ.filter fun j => .retransmit k ∈ (w j).trace).card ∧
      (floodHash sha k ≠ Buf.zero _ → ∀ o, (∀ j, j ≠ o → .sent k ∉ (w j).trace) →
        .retransmit k ∉ (w o).trace ∧ n ≤ Fintype.card ι - 1)) := by
  have hall : n ≤ ∑ j, (w j).trace.count (.retransmit k) := by
    have hsent : (w i).Within _ (k, n) :=
      (spread_of_run h i).sent (k, n) (List.mem_filterMap.mpr ⟨raw, hraw, hhops⟩)
    rwa [World.Within, Finset.sum_erase_add _ _ (Finset.mem_univ _)] at hsent
  refine ⟨hall, fun hkept => ?_⟩
  have hnodes : n ≤ (Finset.univ.filter fun j => .retransmit k ∈ (w j).trace).card := by
    refine hall.trans ?_
    rw [Finset.card_filter]
    refine Finset.sum_le_sum fun j _ => ?_
    split
    · exact count_le_one_of_run hsha h (.inr rfl) (hkept j)
    · rename_i hnot
      exact (List.count_eq_zero_of_not_mem hnot).le
  refine ⟨hnodes, fun hnonzero o honly => ?_⟩
  have hown : .retransmit k ∉ (w o).trace :=
    not_mem_of_run hsha hnonzero h honly (hkept o) (.inr rfl)
  refine ⟨hown, hnodes.trans ?_⟩
  have hsub : (Finset.univ.filter fun j => .retransmit k ∈ (w j).trace) ⊆ Finset.univ.erase o := by
    intro j hj
    refine Finset.mem_erase.mpr ⟨?_, Finset.mem_univ j⟩
    rintro rfl
    exact hown (Finset.mem_filter.mp hj).2
  have hcard := Finset.card_le_card hsub
  rwa [Finset.card_erase_of_mem (Finset.mem_univ o), Finset.card_univ] at hcard

end

/-- The node `a`, which sends adverts. -/
def Ctx.advertising : Ctx :=
  { Ctx.trusting with
    hooks := fun n =>
      { Ctx.trusting.hooks n with
        nodeIdentity := (0, .calledA), nodeAdvertProfile := some ⟨false, 0, 0⟩ } }

/-- The node `a` floods an advert, another node repeats it, and `a` hears its own flood. -/
def advertEcho : Bool → World :=
  let net := network fun i => cond i .trusting .advertising
  let sent := net.play net.start
    [(false, .init), (true, .init), (false, .nodeAdvertRequest true), (false, .timerFired 1000)]
  let repeated := net.play sent
    [(true, .radioRxInject (sent false).frames.head? 0 0 1005), (true, .timerFired 2000)]
  net.play repeated
    [(false, .radioTxDone 1500 true), (false, .radioRxInject (repeated true).frames.head? 0 0 2005)]

theorem advertEcho_run : (network fun i => cond i .trusting .advertising).Run advertEcho := by
  refine Net.Run.play (Net.Run.play (Net.Run.play .start ?_) ?_) ?_ <;> decide +kernel

theorem advertEcho_unforgotten (i : Bool) :
    Unforgotten (floodHash fun _ => (Buf.zero packetHashSize).set 0 1) tablesMaxPacketHashes
      ((advertEcho false).flooded.headD (0, [])) (advertEcho i).trace := by
  have htrace := List.take_append_drop 2 (advertEcho i).trace
  rw [← htrace]
  cases i <;> exact Filtered.unforgotten_append (by decide +kernel) (by decide +kernel)
    (by decide +kernel)

/-- The advert goes out once, and is repeated once. -/
theorem flood_in_network_echo :
    let k := (advertEcho false).flooded.headD (0, [])
    .handed k ∉ (advertEcho false).trace ∧
      ∑ i, (advertEcho i).flooded.count k ≤ (advertEcho false).trace.count (.sent k) + (2 - 1) := by
  intro k
  exact (@flood_in_network Bool _ _ advertEcho (fun _ => (Buf.zero packetHashSize).set 0 1) _
    (fun i _ _ => by cases i <;> rfl) advertEcho_run k).2.2.2 (by decide +kernel)
    advertEcho_unforgotten
      false (by decide +kernel)

/-- The one hop that it records then is that of the node that repeated it. -/
theorem hops_in_network_echo :
    let k := (advertEcho false).flooded.headD (0, [])
    frameHops ((advertEcho true).frames.headD []) = some (k, 1) ∧
      1 ≤ (Finset.univ.filter fun j => .retransmit k ∈ (advertEcho j).trace).card ∧
      .retransmit k ∉ (advertEcho false).trace := by
  intro k
  have hhops : frameHops ((advertEcho true).frames.headD []) = some (k, 1) := by decide +kernel
  obtain ⟨hnodes, hown⟩ := (@hops_in_network Bool _ _ advertEcho k
    (fun _ => (Buf.zero packetHashSize).set 0 1) _ (fun i _ _ => by cases i <;> rfl)
    advertEcho_run true _ 1 (by decide +kernel) hhops).2 advertEcho_unforgotten
  exact ⟨hhops, hnodes, (hown (by decide +kernel) false (by decide +kernel)).1⟩

end Meshcore
