import Meshcore.Sending

/-!
# What a node hears

A packet that is sent is heard by other nodes: each makes a packet of the frame and notes the SNR
that it measured. What was written into the packet is read back from it.

## Main definitions

* `Hears` — from the packet that is sent to the packet that is received
* `FromNow` — what holds of the host's answers from a state on
-/

namespace Meshcore

/-! ### From one node to another -/

/-- `got` is what a node makes of the frame that is sent for `sent`, when it measures `snrQ4`. -/
def Hears (sent : Packet) (snrQ4 : Int8) (got : Packet) : Prop :=
  ∃ parsed, OnAir sent parsed ∧ got = { parsed with snrQ4 }

section

variable {sent got packet : Packet} {snrQ4 : Int8} {type : UInt8} {bytes : List UInt8}

theorem Hears.fields (h : Hears sent snrQ4 got) : OnAirFields sent got := by
  obtain ⟨parsed, hair, rfl⟩ := h
  have hfields := hair.fields
  exact ⟨hfields.header, hfields.pathLenField, hfields.pathBytes, hfields.payloadLen,
    hfields.payloadBytes, ⟨hfields.encodable.1, hfields.encodable.2⟩⟩

theorem Hears.snrQ4_eq (h : Hears sent snrQ4 got) : got.snrQ4 = snrQ4 := by
  obtain ⟨parsed, -, rfl⟩ := h
  rfl

theorem OnAirFields.load (h : OnAirFields sent got) (hload : Load type bytes sent) :
    Load type bytes got where
  type_eq := by
    rw [Packet.getPayloadType, h.header]
    exact hload.type_eq
  payloadBytes_eq := h.payloadBytes.trans hload.payloadBytes_eq
  payloadLen_eq := h.payloadLen.trans hload.payloadLen_eq
  length_le := hload.length_le

/-- The payload arrives as it was sent. -/
theorem Hears.load (h : Hears sent snrQ4 got) (hload : Load type bytes sent) :
    Load type bytes got := h.fields.load hload

theorem Hears.getRouteType_eq (h : Hears sent snrQ4 got) :
    got.getRouteType = sent.getRouteType := by
  rw [Packet.getRouteType, h.fields.header]
  rfl

theorem isRouteDirect_of_getRouteType (h : packet.getRouteType = routeTypeDirect) :
    packet.isRouteDirect = true := by
  rw [Packet.isRouteDirect, h]
  rfl

/-- A direct packet is no flood. -/
theorem Packet.isRouteFlood_of_direct (h : packet.isRouteDirect = true) :
    packet.isRouteFlood = false := by
  simp only [isRouteDirect, Bool.or_eq_true, beq_iff_eq] at h
  rcases h with h | h <;> (rw [isRouteFlood, h]; decide)

theorem OnAir.pathLen_eq {received : Packet} (h : OnAir sent received) :
    received.pathLen = sent.pathLenField.toUInt16 := by
  have hfield := h.fields.pathLenField
  obtain ⟨into, hparse⟩ := h
  obtain ⟨f, -, -, rfl⟩ := tryParsePacket_eq_true.mp hparse
  rw [← hfield, Frame.onto_pathLenField]
  rfl

theorem Hears.pathLen_eq (h : Hears sent snrQ4 got) :
    got.pathLen = sent.pathLenField.toUInt16 := by
  obtain ⟨parsed, hair, rfl⟩ := h
  exact hair.pathLen_eq

/-! ### Reading a payload -/

/-- A word that was written out is read back. -/
theorem wordAt_leBytes (x : UInt32) (rest : List UInt8) :
    wordAt (leBytes 4 x.toNat ++ rest) = x := by
  have hmod : x.toNat % 256 ^ 4 = x.toNat := Nat.mod_eq_of_lt x.toNat_lt
  rw [wordAt, List.take_left' (length_leBytes ..), leNat_leBytes, hmod, UInt32.ofNat_toNat]

theorem Load.slice_payload (h : Load type bytes packet) {off len : ℕ}
    (hlen : off + len ≤ bytes.length) :
    packet.payload.slice off len = (bytes.drop off).take len := by
  have hbytes := h.payloadBytes_eq
  rw [Packet.payloadBytes, h.payloadLen_eq] at hbytes
  rw [← hbytes, Buf.drop_slice, Buf.take_slice, Nat.zero_add, Nat.min_eq_left (by omega)]

theorem Load.get_payload (h : Load type bytes packet) {i : ℕ} (hi : i < bytes.length) :
    packet.payload.get i = bytes.getD i 0 := by
  have hslice : packet.payload.slice i 1 = (bytes.drop i).take 1 := h.slice_payload hi
  have hle := h.length_le
  rw [Buf.slice_succ _ (by omega), Buf.slice_zero, List.drop_eq_getElem_cons hi,
    List.take_succ_cons, List.take_zero] at hslice
  rw [List.getD_eq_getElem _ _ hi]
  exact List.head_eq_of_cons_eq hslice

theorem payloadRead_run {i n : ℕ} (h : i + n ≤ packet.payloadLen) (ctx : Ctx) (w : World) :
    payloadRead packet i n ctx w = (packet.payload.slice i n, w) := by
  rw [payloadRead, Prog.run_bind, access_of h]
  rfl

theorem payloadByte_run {i : ℕ} (h : i < packet.payloadLen) (ctx : Ctx) (w : World) :
    payloadByte packet i ctx w = (packet.payload.get i, w) := by
  rw [payloadByte, Prog.run_bind, access_of h]
  rfl

end

/-! ### The host -/

/-- From this state on every answer of the host satisfies `P`. -/
def FromNow (ctx : Ctx) (w : World) (P : Hooks → Prop) : Prop := ∀ n, w.tick ≤ n → P (ctx.hooks n)

section

variable {ctx : Ctx} {w w' : World} {P Q : Hooks → Prop}

theorem FromNow.now (h : FromNow ctx w P) : P (ctx.hooks w.tick) := h _ le_rfl

theorem FromNow.later (h : FromNow ctx w P) (hle : w.tick ≤ w'.tick) : FromNow ctx w' P :=
  fun n hn => h n (hle.trans hn)

theorem FromNow.imp (h : FromNow ctx w P) (hP : ∀ hooks, P hooks → Q hooks) : FromNow ctx w Q :=
  fun n hn => hP _ (h n hn)

/-- The host knows the node's own identity. -/
def Hooks.Is (identity : NodeIdentity) (hooks : Hooks) : Prop := hooks.nodeIdentity = (0, identity)

theorem localIdentityGet_run {identity : NodeIdentity} (h : (ctx.hooks w.tick).Is identity) :
    localIdentityGet ctx w = (some identity, { w with tick := w.tick + 1 }) := by
  have hanswer : (hook Hooks.nodeIdentity ctx w).1 = (0, identity) := h
  rw [localIdentityGet, Prog.run_bind, hanswer]
  rfl

theorem localRoleIs_run {identity : NodeIdentity} (role : Role)
    (h : (ctx.hooks w.tick).Is identity) :
    localRoleIs role ctx w = (decide (identity.role = role), { w with tick := w.tick + 1 }) := by
  rw [localRoleIs, Prog.run_bind, localIdentityGet_run h]
  rfl

/-- The node has this role. -/
def Hooks.HasRole (role : Role) (hooks : Hooks) : Prop :=
  ∃ identity, hooks.Is identity ∧ identity.role = role

theorem Hooks.HasRole.localRoleIs_run {role : Role} (h : (ctx.hooks w.tick).HasRole role) :
    localRoleIs role ctx w = (true, { w with tick := w.tick + 1 }) := by
  obtain ⟨identity, hidentity, hrole⟩ := h
  rw [Meshcore.localRoleIs_run role hidentity, decide_eq_true hrole]

/-- An initialised runtime handles a packet itself. -/
theorem whenInitialized_run (h : w.initialized = true) (fallback : Event) (handler : M Unit) :
    whenInitialized fallback handler ctx w = handler ctx w := by
  rw [whenInitialized, Prog.run_bind, Prog.run_gets, h]
  rfl

end

/-- A CHAT node called `a`. -/
def NodeIdentity.calledA : NodeIdentity :=
  { Hooks.silent.nodeIdentity.2 with
    name := (Buf.zero _).set 0 0x61, publicKey := (Buf.zero _).set 0 1 }

/-- A CHAT node that repeats for its clients, with packet hashes that are not zero. -/
def Ctx.forwarding : Ctx :=
  { Ctx.silent with
    hooks := fun _ =>
      { Hooks.silent with
        sha256 := fun n _ => some ((Buf.zero n).set 0 1)
        nodeRuntimePolicy := some
          { pathHashSize := 1, loopDetect := .off, clientRepeat := true, disableFwd := false
            floodMax := 64, txDelayFactor := 0, directTxDelayFactor := 0 } } }

/-- A node whose public key begins with this byte. -/
def World.keyed (key : UInt8) : World :=
  { World.boot with selfId := ⟨(Buf.zero _).set 0 key, Buf.zero _⟩ }

/-- Such hashes are not in an empty table. -/
theorem tablesHasSeen_fresh {packet : Packet} {ctx : Ctx} {w : World}
    (hsha : ∀ n data,
      (ctx.hooks n).sha256 packetHashSize data = some ((Buf.zero packetHashSize).set 0 1))
    (hlen : packet.payloadLen ≤ packetPayloadMaxLen) (htables : w.tables = .init) :
    (tablesHasSeen packet ctx w).1 = false := by
  have hhash : calculateHash packet ctx w
      = ((Buf.zero packetHashSize).set 0 1, { w with tick := w.tick + 1 }) := by
    rw [calculateHash_run, if_neg (not_lt.mpr hlen), Hooks.packetHash, hsha]
    rfl
  have hnew : (Buf.zero packetHashSize).set 0 1 ∉ Tables.init.hashes.slots := by decide +kernel
  rw [tablesHasSeen_run]
  dsimp only
  rw [hhash]
  dsimp only
  rw [htables, if_neg hnew]

end Meshcore
