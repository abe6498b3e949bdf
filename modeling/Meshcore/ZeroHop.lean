import Meshcore.Adverts
import Meshcore.ForwardPolicy

/-!
# Neighbours

`meshcore_runtime_on_advert_recv` on a repeater: the host is told of the adverts of other repeaters
that came straight from their sender, which shows in an empty path. An advert with the transport
codes 0 and 0 is a share of somebody else.

The path length byte holds the size of the hashes besides their number. The sender's choice of a
size of two or three bytes makes it different from 0 for an empty path too.

## Main definitions

* `RepeaterAdvert` — app data of a repeater
* `Published` — the host is told of an advert

## Main results

* `onAdvertRecv_repeater` — what a repeater tells its host
* `published_neighbour_iff` — when it tells it of every neighbour
-/

namespace Meshcore

/-- App data that parses, of a repeater. -/
structure RepeaterAdvert (appData : List UInt8) : Prop where
  length_ne : appData.length ≠ 0
  length_le : appData.length ≤ 255
  valid : (AdvertDataParser.init appData).valid = true
  type_eq : (AdvertDataParser.init appData).getType = advTypeRepeater

/-- The host is told of an advert, and of nothing else. -/
def Published (packet : Packet) (identity : Identity) (timestamp : UInt32) (appData : List UInt8)
    (ctx : Ctx) (w : World) : Prop :=
  ∃ advert, (onAdvertRecv packet identity timestamp appData ctx w).2.events
    = w.events ++ [.advert advert]

section

variable {packet : Packet} {identity : Identity} {timestamp : UInt32} {appData : List UInt8}
  {ctx : Ctx} {w : World}

theorem localRoleIs_other {role role' : Role} (h : (ctx.hooks w.tick).HasRole role)
    (hne : role ≠ role') : localRoleIs role' ctx w = (false, { w with tick := w.tick + 1 }) := by
  obtain ⟨identity, hidentity, rfl⟩ := h
  rw [localRoleIs_run role' hidentity, decide_eq_false hne]

/-- The advert of a repeater is published when there is some role in it. -/
theorem advertPublish_run (happ : RepeaterAdvert appData) (w : World) :
    ∃ advert, (advertPublish packet identity timestamp (.init appData) ctx w).2.events
      = w.events ++ [.advert advert] := by
  have hrole : roleFromAdvertType (AdvertDataParser.init appData).getType = .repeater := by
    rw [happ.type_eq]
    rfl
  have hsome : ¬((!(AdvertDataParser.init appData).valid) = true ∨
      roleFromAdvertType (AdvertDataParser.init appData).getType = .none) := by
    rw [happ.valid, hrole]
    decide
  rw [advertPublish]
  exact ⟨_, by rw [if_neg hsome]; rfl⟩

/-- A repeater looks at the whole path length. -/
theorem onAdvertRecv_repeater (hinit : w.initialized = true) (happ : RepeaterAdvert appData)
    (hrole : FromNow ctx w (Hooks.HasRole .repeater)) :
    (packet.pathLen = 0 ∧ advertIsShare packet = false →
      Published packet identity timestamp appData ctx w) ∧
    (¬(packet.pathLen = 0 ∧ advertIsShare packet = false) →
      (onAdvertRecv packet identity timestamp appData ctx w).2.events = w.events) := by
  have hlen : ¬(appData.length = 0 ∨ appData.length > 255) :=
    not_or.mpr ⟨happ.length_ne, not_lt.mpr happ.length_le⟩
  have hchat := localRoleIs_other hrole.now (show Role.repeater ≠ .chat by decide)
  have hrepeater := (hrole (w.tick + 1) (Nat.le_succ _)).localRoleIs_run
    (w := { w with tick := w.tick + 1 })
  have hvalid : ¬(!(AdvertDataParser.init appData).valid) = true := by
    rw [happ.valid]
    decide
  have hrun : onAdvertRecv packet identity timestamp appData ctx w =
      (if packet.pathLen = 0 ∧ advertIsShare packet = false then
        advertPublish packet identity timestamp (.init appData) else pure ()) ctx
          { w with tick := w.tick + 2 } := by
    rw [onAdvertRecv, whenInitialized_run hinit, if_neg hlen, if_neg hvalid,
      Prog.run_bind_of hchat, if_neg Bool.false_ne_true, Prog.run_bind_of hrepeater]
    simp only [true_and, happ.type_eq, and_true, Bool.not_eq_true']
  constructor
  · intro hnear
    rw [Published, hrun, if_pos hnear]
    exact advertPublish_run happ _
  · intro hfar
    rw [hrun, if_neg hfar]
    rfl

theorem published_iff (hinit : w.initialized = true) (happ : RepeaterAdvert appData)
    (hrole : FromNow ctx w (Hooks.HasRole .repeater)) :
    Published packet identity timestamp appData ctx w ↔
      packet.pathLen = 0 ∧ advertIsShare packet = false := by
  obtain ⟨hnear, hfar⟩ := @onAdvertRecv_repeater packet identity timestamp appData ctx w
    hinit happ hrole
  refine ⟨fun ⟨advert, h⟩ => by_contra fun hno => ?_, hnear⟩
  rw [hfar hno] at h
  exact absurd h (by simp)

/-- A path length of 0 is an empty path. -/
theorem getPathHashCount_of_pathLen (h : packet.pathLen = 0) : packet.getPathHashCount = 0 := by
  rw [Packet.getPathHashCount, Packet.pathLenField, h]
  rfl

/-- **Zero hops.** A repeater takes a repeater for a neighbour just when it heard it without hops
and from itself, unless the sender uses hashes of more than one byte: then it takes none for one.
Two adverts with empty paths that differ in the size of the hashes only get the same treatment when
neither or both have hashes of one byte, or when they are shares. -/
theorem published_neighbour_iff (hinit : w.initialized = true) (happ : RepeaterAdvert appData)
    (hrole : FromNow ctx w (Hooks.HasRole .repeater)) :
    ((Published packet identity timestamp appData ctx w ↔
        packet.getPathHashCount = 0 ∧ advertIsShare packet = false) ↔
      packet.pathLen = 0 ∨ packet.getPathHashCount ≠ 0 ∨ advertIsShare packet = true) ∧
    ∀ pathLen, packet.getPathHashCount = 0 → { packet with pathLen }.getPathHashCount = 0 →
      ((Published packet identity timestamp appData ctx w ↔
          Published { packet with pathLen } identity timestamp appData ctx w) ↔
        (packet.pathLen = 0 ↔ pathLen = 0) ∨ advertIsShare packet = true) := by
  have hempty := @getPathHashCount_of_pathLen packet
  constructor
  · rw [published_iff hinit happ hrole]
    cases advertIsShare packet with
    | true => simp
    | false =>
      simp only [and_true, Bool.false_eq_true, or_false]
      constructor
      · intro h
        by_cases hlen : packet.pathLen = 0
        · exact .inl hlen
        · exact .inr fun hcount => hlen (h.mpr hcount)
      · rintro (hlen | hcount)
        · exact iff_of_true hlen (hempty hlen)
        · exact iff_of_false (fun hlen => hcount (hempty hlen)) hcount
  · intro pathLen hcount hcount'
    have hshare : advertIsShare { packet with pathLen } = advertIsShare packet := rfl
    rw [published_iff hinit happ hrole, published_iff hinit happ hrole, hshare]
    cases advertIsShare packet <;> simp

end

/-- A repeater that takes every signature for good. -/
def Ctx.trustingRepeater : Ctx :=
  { Ctx.trusting with
    hooks := fun n => { Ctx.trusting.hooks n with nodeIdentity := (0, .repeater) } }

/-- A flood with the advert of a repeater and this path length. -/
def neighbourAdvert (pathLen : UInt16) : Packet :=
  { Packet.init with
    header := 0x11
    pathLen
    payloadLen := 101
    payload := (Buf.zero _).store 0 (advertBytes (Buf.zero _) NodeIdentity.calledA.publicKey 5
      [advTypeRepeater]) }

/-- With one-byte hashes it is a neighbour's. -/
theorem published_neighbour_iff_one :
    Published (neighbourAdvert 0) NodeIdentity.calledA.publicKey 5 [advTypeRepeater]
      .trustingRepeater
        { World.boot with initialized := true } ↔
      (neighbourAdvert 0).getPathHashCount = 0 ∧ advertIsShare (neighbourAdvert 0) = false :=
  (@published_neighbour_iff (neighbourAdvert 0) NodeIdentity.calledA.publicKey 5 [advTypeRepeater]
    .trustingRepeater { World.boot with initialized := true } rfl
    ⟨by decide, by decide, by decide, by decide⟩ fun _ _ => ⟨_, rfl, rfl⟩).1.mpr (.inl rfl)

/-- With two-byte hashes the path is as empty, and nobody is told. -/
theorem neighbour_with_two_byte_hashes :
    (neighbourAdvert 0x40).getPathHashCount = 0 ∧ advertIsShare (neighbourAdvert 0x40) = false ∧
      (meshOnRecvPacket (neighbourAdvert 0x40) .trustingRepeater
        { World.boot with initialized := true }).2.events.length = 0 ∧
      (meshOnRecvPacket (neighbourAdvert 0) .trustingRepeater
        { World.boot with initialized := true }).2.events.length = 1 ∧
      ¬Published (neighbourAdvert 0x40) NodeIdentity.calledA.publicKey 5 [advTypeRepeater]
        .trustingRepeater { World.boot with initialized := true } := by
  refine ⟨by decide, by decide, by decide +kernel, by decide +kernel, ?_⟩
  rintro ⟨advert, h⟩
  have hnone :
      (onAdvertRecv (neighbourAdvert 0x40) NodeIdentity.calledA.publicKey 5 [advTypeRepeater]
      .trustingRepeater { World.boot with initialized := true }).2.events.length = 0 := by
    decide +kernel
  rw [h] at hnone
  exact absurd hnone (by simp)

end Meshcore
