import Meshcore.Hearing
import Meshcore.Lib.Window

/-!
# The duplicate table over its calls

`support/meshcore_tables.c`. A packet that was not seen is put into the table, over the oldest
entry, and a packet can be taken out of it. What the table answers is what the calls before say: a
packet was seen if it was put there, was not taken out since, and fewer packets than the table has
room for were put there after it.

## Main definitions

* `tablesClear` — `meshcore_tables_clear`
* `SeenRun` — the calls on a table, and the table after them

## Main results

* `SeenRun.windowed` — the table is a memory of the last hashes
* `seen_table_remembers`
-/

namespace Meshcore

/-- The first entry with this hash is zeroed. -/
def Tables.clear (tables : Tables) (hash : PacketHash) : Tables :=
  { tables with hashes := tables.hashes.blank hash (Buf.zero _) }

/-- `meshcore_tables_clear`. -/
def tablesClear (packet : Packet) : M Unit := do
  let hash ← calculateHash packet
  Prog.modify fun w => { w with tables := w.tables.clear hash }

/-- A call on the table: the hash of the packet, and the answer. -/
inductive SeenCall where
  | hasSeen (hash : PacketHash) (answer : Bool)
  | clear (hash : PacketHash)
deriving DecidableEq

/-- What the table records of a call. A packet that was seen is not recorded again. -/
def SeenCall.mark? : SeenCall → Option (WindowMark PacketHash)
  | hasSeen hash false => some (.recorded hash)
  | hasSeen _ true => none
  | clear hash => some (.cleared hash)

/-- A packet was put into the table. -/
def SeenCall.records : SeenCall → Bool
  | hasSeen _ answer => !answer
  | clear _ => false

/-- Calls on a table that started empty, each at any time, with a packet whose hash is not zero. -/
inductive SeenRun : List SeenCall → Tables → Prop
  | init : SeenRun [] .init
  | hasSeen {log : List SeenCall} {w : World} (ctx : Ctx) (packet : Packet)
    (ht : SeenRun log w.tables) (hhash : (calculateHash packet ctx w).1 ≠ Buf.zero _) :
    SeenRun (log ++ [.hasSeen (calculateHash packet ctx w).1 (tablesHasSeen packet ctx w).1])
      (tablesHasSeen packet ctx w).2.tables
  | clear {log : List SeenCall} {w : World} (ctx : Ctx) (packet : Packet)
    (ht : SeenRun log w.tables) (hhash : (calculateHash packet ctx w).1 ≠ Buf.zero _) :
    SeenRun (log ++ [.clear (calculateHash packet ctx w).1]) (tablesClear packet ctx w).2.tables

section

variable {ctx : Ctx} {w : World} {packet : Packet} {log : List SeenCall} {tables : Tables}
  {hash : PacketHash}

theorem tables_calculateHash : (calculateHash packet ctx w).2.tables = w.tables := by
  rw [calculateHash_run]
  split <;> rfl

/-- The answer says whether the hash was in the table, and it is there afterwards. -/
theorem tablesHasSeen_hashes :
    ((tablesHasSeen packet ctx w).1 = true ↔
        (calculateHash packet ctx w).1 ∈ w.tables.hashes.slots) ∧
      (tablesHasSeen packet ctx w).2.tables.hashes =
        if (tablesHasSeen packet ctx w).1 then w.tables.hashes
        else w.tables.hashes.insert (calculateHash packet ctx w).1 := by
  have htables : (calculateHash packet ctx w).2.tables = w.tables := tables_calculateHash
  rw [tablesHasSeen_run]
  dsimp only
  split
  · rename_i hmem
    obtain ⟨d, f, hdup⟩ := (calculateHash packet ctx w).2.tables.countDup_eq packet
    rw [htables] at hmem
    refine ⟨⟨fun _ => hmem, fun _ => rfl⟩, ?_⟩
    rw [if_pos rfl, hdup, htables]
  · rename_i hnew
    rw [htables] at hnew
    refine ⟨⟨fun h => absurd h Bool.false_ne_true, fun hmem => absurd hmem hnew⟩, ?_⟩
    rw [if_neg Bool.false_ne_true, htables]
    rfl

theorem tablesClear_hashes : (tablesClear packet ctx w).2.tables.hashes
    = w.tables.hashes.blank (calculateHash packet ctx w).1 (Buf.zero _) := by
  have htables : (calculateHash packet ctx w).2.tables = w.tables := tables_calculateHash
  rw [← htables]
  rfl

namespace SeenRun

/-- The table is a memory of the last hashes that were put there. -/
theorem windowed (h : SeenRun log tables) :
    Windowed (Buf.zero _) (show 0 < tablesMaxPacketHashes by decide) (log.filterMap SeenCall.mark?)
      tables.hashes := by
  induction h with
  | init => exact .start
  | @hasSeen log w ctx packet ht hhash ih =>
    obtain ⟨hmem, hafter⟩ := @tablesHasSeen_hashes ctx w packet
    rw [hafter, List.filterMap_append]
    rcases hanswer : (tablesHasSeen packet ctx w).1 with _ | _
    · rw [hanswer] at hmem
      exact ih.recorded hhash fun h => absurd (hmem.mpr h) Bool.false_ne_true
    · rw [show [SeenCall.hasSeen (calculateHash packet ctx w).1 true].filterMap SeenCall.mark? = []
        from rfl, List.append_nil]
      exact ih
  | @clear log w ctx packet ht hhash ih =>
    rw [tablesClear_hashes, List.filterMap_append]
    exact ih.cleared hhash

end SeenRun

/-- What the table remembers, in terms of its calls. -/
theorem retains_filterMap_iff {n : ℕ} :
    Retains n (log.filterMap SeenCall.mark?) hash ↔
      ∃ l r, log = l ++ .hasSeen hash false :: r ∧ .clear hash ∉ r ∧
        r.countP SeenCall.records < n := by
  have hclear : ∀ r : List SeenCall,
      WindowMark.cleared hash ∈ r.filterMap SeenCall.mark? ↔ .clear hash ∈ r := by
    intro r
    rw [List.mem_filterMap]
    constructor
    · rintro ⟨c, hc, hmark⟩
      rcases c with ⟨_, _ | _⟩ | _
      · cases hmark
      · cases hmark
      · obtain rfl := WindowMark.cleared.inj (Option.some.inj hmark)
        exact hc
    · exact fun hc => ⟨_, hc, rfl⟩
  have hcount : ∀ r : List SeenCall,
      (r.filterMap SeenCall.mark?).countP WindowMark.isRecord = r.countP SeenCall.records := by
    intro r
    rw [List.countP_filterMap]
    refine List.countP_congr fun c _ => ?_
    rcases c with ⟨_, _ | _⟩ | _ <;> rfl
  constructor
  · rintro ⟨l, r, hlog, hnot, hfew⟩
    obtain ⟨l', rest, rfl, -, hrest⟩ := List.filterMap_eq_append_iff.mp hlog
    obtain ⟨l'', c, r', rfl, -, hc, rfl⟩ := List.filterMap_eq_cons_iff.mp hrest
    obtain rfl : c = .hasSeen hash false := by
      rcases c with ⟨_, _ | _⟩ | _
      · obtain rfl := WindowMark.recorded.inj (Option.some.inj hc)
        rfl
      · cases hc
      · cases hc
    refine ⟨l' ++ l'', r', by rw [List.append_assoc], (hclear r').not.mp hnot, ?_⟩
    rwa [hcount] at hfew
  · rintro ⟨l, r, rfl, hnot, hfew⟩
    refine ⟨l.filterMap SeenCall.mark?, r.filterMap SeenCall.mark?, ?_, (hclear r).not.mpr hnot, ?_⟩
    · rw [List.filterMap_append]
      rfl
    · rwa [hcount]

/-- Every answer says what the calls before it left in the table. -/
theorem SeenRun.answer_iff (h : SeenRun log tables) {earlier later : List SeenCall} {answer : Bool}
    (hlog : log = earlier ++ .hasSeen hash answer :: later) :
    answer = true ↔ Retains tablesMaxPacketHashes (earlier.filterMap SeenCall.mark?) hash := by
  induction h generalizing later with
  | init => exact absurd hlog.symm (List.append_ne_nil_of_right_ne_nil _ (List.cons_ne_nil _ _))
  | @hasSeen log w ctx packet ht hhash ih =>
    rcases List.eq_nil_or_concat' later with rfl | ⟨later, c, rfl⟩
    · obtain ⟨rfl, hcall⟩ := List.append_inj' hlog rfl
      obtain ⟨rfl, rfl⟩ := SeenCall.hasSeen.inj (List.cons.inj hcall).1
      rw [tablesHasSeen_hashes.1, ht.windowed.mem_slots_iff hhash]
    · rw [← List.cons_append, ← List.append_assoc] at hlog
      exact ih (List.append_inj' hlog rfl).1
  | @clear log w ctx packet ht hhash ih =>
    rcases List.eq_nil_or_concat' later with rfl | ⟨later, c, rfl⟩
    · obtain ⟨-, hcall⟩ := List.append_inj' hlog rfl
      cases (List.cons.inj hcall).1
    · rw [← List.cons_append, ← List.append_assoc] at hlog
      exact ih (List.append_inj' hlog rfl).1

end

/-- **What the table remembers.** A packet is seen exactly if it was put into the table by an
earlier call that had not seen it, was not taken out since, and fewer than 160 packets were put
there after it. The next index stays inside the table, no hash is stored twice, and taking a packet
out leaves every other hash where it is. -/
theorem seen_table_remembers {log : List SeenCall} {tables : Tables} (h : SeenRun log tables) :
    (∀ earlier hash answer later, log = earlier ++ .hasSeen hash answer :: later →
      (answer = true ↔ ∃ l r, earlier = l ++ .hasSeen hash false :: r ∧ .clear hash ∉ r ∧
        r.countP SeenCall.records < 160)) ∧
    tables.hashes.next < 160 ∧
    (∀ hash, hash ≠ Buf.zero _ → tables.hashes.slots.count hash ≤ 1) ∧
    ∀ (packet : Packet) (ctx : Ctx) (w : World), w.tables = tables →
      (calculateHash packet ctx w).1 ≠ Buf.zero _ → ∀ hash, hash ≠ Buf.zero _ →
        (hash ∈ (tablesClear packet ctx w).2.tables.hashes.slots ↔
          hash ∈ tables.hashes.slots ∧ hash ≠ (calculateHash packet ctx w).1) := by
  refine ⟨fun earlier hash answer later hlog => ?_, tables.hashes.next_lt,
    fun hash hne => h.windowed.count_le_one hne, ?_⟩
  · rw [h.answer_iff hlog, retains_filterMap_iff]
  · rintro packet ctx w rfl hpacket hash hne
    have honce := h.windowed.count_le_one hpacket
    rw [tablesClear_hashes, ← RecentRing.mem_recent, RecentRing.recent_blank honce,
      mem_map_blanked hne, RecentRing.mem_recent]

/-- A packet that is looked for twice is found the second time. -/
theorem seen_table_remembers_two :
    let once := (tablesHasSeen Packet.init .forwarding .boot).2
    let hash := (calculateHash Packet.init .forwarding once).1
    ((tablesHasSeen Packet.init .forwarding once).1 = true ↔ ∃ l r,
      [.hasSeen (calculateHash Packet.init .forwarding .boot).1 false]
        = l ++ SeenCall.hasSeen hash false :: r ∧ SeenCall.clear hash ∉ r ∧
          r.countP SeenCall.records < 160) := by
  intro once hash
  have hnew : (tablesHasSeen Packet.init .forwarding .boot).1 = false := by decide +kernel
  have hfirst : SeenRun [.hasSeen (calculateHash Packet.init .forwarding .boot).1 false]
      once.tables := by
    rw [← hnew]
    exact @SeenRun.hasSeen [] .boot .forwarding Packet.init .init (by decide +kernel)
  have hsecond := @SeenRun.hasSeen _ once .forwarding Packet.init hfirst (by decide +kernel)
  exact (seen_table_remembers hsecond).1 _ _ _ [] rfl

end Meshcore
