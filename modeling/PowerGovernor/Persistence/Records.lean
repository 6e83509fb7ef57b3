import PowerGovernor.Persistence.RoundTrip

/-!
Records as they stand in a file.

Owns the fields of each record before any check, the check and construction that
follow, and which of them a constructor refuses by throwing.
-/

set_option autoImplicit false

namespace PowerGovernor

/-- A check that consumes nothing. -/
def BinReader.ofExcept {α : Type} (result : Except Exit α) : BinReader α :=
  match result with
  | .ok a => pure a
  | .error exit => throw exit

/-- The amounts are stored in thousandths. -/
abbrev Thousandths := Int64

def Thousandths.value (n : Thousandths) : ℚ := ofMilli n.toInt

/-- A constructor that throws ends the decoding. -/
def constructed {α : Type} : Except Fault α → Except Exit α
  | .ok a => .ok a
  | .error fault => .error (.threw fault)

/-! ## Caps -/

/-- The amount behind a presence flag. -/
def rawCap : BinReader (Option Thousandths) := do
  if ← BinReader.bool then
    let v ← BinReader.i64
    return some v
  else return none

def buildCap : Option Thousandths → Except Exit (Option Watts)
  | none => .ok none
  | some v => do
    let cap ← constructed (Quantity.construct v.value)
    return some cap

/-! ## Budgets -/

structure RawBudget where
  bid : UInt64
  bgen : UInt64
  dom : UInt64
  parent : UInt64
  name : Bytes
  hmax : Thousandths
  soft : Thousandths
  reserve : Thousandths
  burst : Thousandths
  bw : Int64
  rec_ : Int64
  pri : Int32
  auth : Bool

def rawBudget : BinReader RawBudget := do
  let bid ← BinReader.u64
  let bgen ← BinReader.u64
  let dom ← BinReader.u64
  let parent ← BinReader.u64
  let name ← BinReader.str
  let hmax ← BinReader.i64
  let soft ← BinReader.i64
  let reserve ← BinReader.i64
  let burst ← BinReader.i64
  let bw ← BinReader.i64
  let rec_ ← BinReader.i64
  let pri ← BinReader.i32
  let auth ← BinReader.bool
  return ⟨bid, bgen, dom, parent, name, hmax, soft, reserve, burst, bw, rec_, pri, auth⟩

namespace RawBudget

/-- The sign check of the decoder. -/
def Refused (raw : RawBudget) : Prop :=
  raw.hmax.value < 0 ∨ raw.soft.value < 0 ∨ raw.reserve.value < 0 ∨ raw.burst.value < 0

instance (raw : RawBudget) : Decidable raw.Refused := by
  unfold Refused
  infer_instance

def build (raw : RawBudget) : Except Exit PowerBudget :=
  if raw.Refused then .error .rejected
  else do
    let hardMax ← constructed (Quantity.construct raw.hmax.value)
    let softTarget ← constructed (Quantity.construct raw.soft.value)
    let minReserve ← constructed (Quantity.construct raw.reserve.value)
    let burstAllowance ← constructed (Quantity.construct raw.burst.value)
    let burstWindow ← constructed (Duration.construct raw.bw.toInt)
    let recovery ← constructed (Duration.construct raw.rec_.toInt)
    return { PowerBudget.blank with
      id := ⟨raw.bid⟩
      generation := ⟨raw.bgen⟩
      domain := ⟨raw.dom⟩
      parent := some ⟨raw.parent⟩
      name := raw.name
      hardMax := hardMax
      softTarget := softTarget
      minReserve := minReserve
      burstAllowance := burstAllowance
      burstWindow := burstWindow
      recovery := recovery
      priority := raw.pri
      authoritative := raw.auth }

end RawBudget

/-! ## Reservations -/

structure RawReservation where
  rid : UInt64
  bid : UInt64
  wl : UInt64
  cls : UInt8
  power : Thousandths
  energy : Thousandths
  rpol : UInt64
  rdev : UInt64
  rbg : UInt64
  repoch : UInt64
  rboot : UInt64
  created : Int64
  validity : Int64
  state : UInt8
  reserved : Thousandths
  energyUsed : Thousandths

def rawReservation : BinReader RawReservation := do
  let rid ← BinReader.u64
  let bid ← BinReader.u64
  let wl ← BinReader.u64
  let cls ← BinReader.u8
  let power ← BinReader.i64
  let energy ← BinReader.i64
  let rpol ← BinReader.u64
  let rdev ← BinReader.u64
  let rbg ← BinReader.u64
  let repoch ← BinReader.u64
  let rboot ← BinReader.u64
  let created ← BinReader.i64
  let validity ← BinReader.i64
  let state ← BinReader.u8
  let reserved ← BinReader.i64
  let energyUsed ← BinReader.i64
  return ⟨rid, bid, wl, cls, power, energy, rpol, rdev, rbg, repoch, rboot, created, validity,
    state, reserved, energyUsed⟩

/-- An enumerator that is out of range is refused. -/
def enumerated {α : Type} : Option α → Except Exit α
  | some value => .ok value
  | none => .error .rejected

namespace RawReservation

/-- The sign check of the decoder; the requested energy is not in it. -/
def Refused (raw : RawReservation) : Prop :=
  raw.power.value < 0 ∨ raw.reserved.value < 0 ∨ raw.energyUsed.value < 0

instance (raw : RawReservation) : Decidable raw.Refused := by
  unfold Refused
  infer_instance

def build (raw : RawReservation) : Except Exit Reservation := do
  let powerClass ← enumerated (WorkloadPowerClass.ofByte? raw.cls)
  let state ← enumerated (ReservationState.ofByte? raw.state)
  if raw.Refused then .error .rejected
  else do
    let requestedPower ← constructed (Quantity.construct raw.power.value)
    let requestedEnergy ← constructed (Quantity.construct raw.energy.value)
    let validity ← constructed (Duration.construct raw.validity.toInt)
    let reservedPower ← constructed (Quantity.construct raw.reserved.value)
    let energyUsed ← constructed (Quantity.construct raw.energyUsed.value)
    return { Reservation.blank with
      id := ⟨raw.rid⟩
      budget := ⟨raw.bid⟩
      workload := ⟨raw.wl⟩
      powerClass := powerClass
      requestedPower := requestedPower
      requestedEnergy := requestedEnergy
      policyGeneration := ⟨raw.rpol⟩
      deviceGeneration := ⟨raw.rdev⟩
      budgetGeneration := ⟨raw.rbg⟩
      authority := { AuthorityEnvelope.blank with epoch := ⟨raw.repoch⟩, boot := ⟨raw.rboot⟩ }
      created := Timestamp.ofInt64 raw.created
      validity := validity
      state := state
      reservedPower := reservedPower
      energyUsed := energyUsed }

end RawReservation

/-! ## Meters -/

structure RawMeter where
  wl : UInt64
  en : Thousandths

def rawMeter : BinReader RawMeter := do
  let wl ← BinReader.u64
  let en ← BinReader.i64
  return ⟨wl, en⟩

def RawMeter.build (raw : RawMeter) : Except Exit (WorkloadId × Joules) :=
  if raw.en.value < 0 then .error .rejected
  else do
    let energy ← constructed (Quantity.construct raw.en.value)
    return (⟨raw.wl⟩, energy)

/-! ## Reading, then building -/

theorem BinReader.construct_bind {α β : Type} (result : Except Fault α)
    {next : α → BinReader β} {build : α → Except Exit β}
    (same : ∀ a, next a = BinReader.ofExcept (build a)) :
    (BinReader.construct result >>= next) = BinReader.ofExcept (constructed result >>= build) := by
  cases result with
  | ok a => exact same a
  | error fault => rfl

theorem BinReader.rejectIf_bind {β : Type} {condition : Prop} [Decidable condition]
    {next : BinReader β} {build : Except Exit β} (same : next = BinReader.ofExcept build) :
    (BinReader.rejectIf condition >>= fun _ => next) =
      BinReader.ofExcept (if condition then .error .rejected else build) := by
  unfold BinReader.rejectIf
  by_cases refused : condition
  · rw [if_pos refused, if_pos refused]
    rfl
  · rw [if_neg refused, if_neg refused]
    exact same

theorem BinReader.enumerator_bind {α β : Type} (result : Option α) {next : α → BinReader β}
    {build : α → Except Exit β} (same : ∀ a, next a = BinReader.ofExcept (build a)) :
    (BinReader.enumerator result >>= next) = BinReader.ofExcept (enumerated result >>= build) := by
  cases result with
  | some a => exact same a
  | none => rfl

theorem decodeCap_eq : decodeCap = rawCap >>= fun raw => BinReader.ofExcept (buildCap raw) := by
  unfold decodeCap rawCap BinReader.f64
  simp only [bind_assoc, pure_bind]
  refine bind_congr fun present => ?_
  cases present with
  | false => rfl
  | true =>
      simp only [if_true, bind_assoc, pure_bind]
      refine bind_congr fun _ => ?_
      refine BinReader.construct_bind _ fun _ => ?_
      rfl

/-- A budget record is read and then built. -/
theorem decodeBudget_eq :
    decodeBudget = rawBudget >>= fun raw => BinReader.ofExcept raw.build := by
  unfold decodeBudget rawBudget BinReader.f64
  simp only [bind_assoc, pure_bind]
  iterate 13 refine bind_congr fun _ => ?_
  apply BinReader.rejectIf_bind
  iterate 6 refine BinReader.construct_bind _ fun _ => ?_
  rfl

theorem decodeReservation_eq :
    decodeReservation = rawReservation >>= fun raw => BinReader.ofExcept raw.build := by
  unfold decodeReservation rawReservation BinReader.f64
  simp only [bind_assoc, pure_bind]
  iterate 16 refine bind_congr fun _ => ?_
  refine BinReader.enumerator_bind _ fun _ => ?_
  refine BinReader.enumerator_bind _ fun _ => ?_
  apply BinReader.rejectIf_bind
  iterate 5 refine BinReader.construct_bind _ fun _ => ?_
  rfl

theorem decodeMeter_eq :
    decodeMeter = rawMeter >>= fun raw => BinReader.ofExcept raw.build := by
  unfold decodeMeter rawMeter BinReader.f64
  simp only [bind_assoc, pure_bind]
  iterate 2 refine bind_congr fun _ => ?_
  apply BinReader.rejectIf_bind
  refine BinReader.construct_bind _ fun _ => ?_
  rfl

section Built

variable {α β : Type} {raw : BinReader α} {build : α → Except Exit β} {bytes rest : Bytes}

theorem run_built_eq_error {e : Exit} :
    (raw >>= fun a => BinReader.ofExcept (build a)).run bytes = .error e ↔
      raw.run bytes = .error e ∨ ∃ a rest, raw.run bytes = .ok (a, rest) ∧ build a = .error e := by
  rw [StateT.run_bind]
  cases read : raw.run bytes with
  | error other => simp [bind, Except.bind]
  | ok result =>
      show (BinReader.ofExcept (build result.1)).run result.2 = _ ↔ _
      constructor
      · intro failed
        cases built : build result.1 with
        | error exit =>
            rw [built] at failed
            obtain rfl := Except.error.inj failed
            exact .inr ⟨_, _, rfl, built⟩
        | ok b =>
            rw [built] at failed
            cases failed
      · rintro (unread | ⟨a, rest, same, built⟩)
        · cases unread
        · obtain rfl := Except.ok.inj same
          rw [built]
          rfl

end Built

/-! ## What constructors refuse -/

/-- The reader may end in a `return false`, never in an exception. -/
def BinReader.NeverThrows {α : Type} (reader : BinReader α) : Prop :=
  ∀ bytes fault, reader.run bytes ≠ .error (.threw fault)

namespace BinReader.NeverThrows

variable {α β : Type}

theorem pure (a : α) : NeverThrows (Pure.pure a : BinReader α) := fun _ _ => nofun

theorem bind {reader : BinReader α} {next : α → BinReader β} (first : reader.NeverThrows)
    (second : ∀ a, (next a).NeverThrows) : (reader >>= next).NeverThrows := by
  intro bytes fault failed
  rw [StateT.run_bind] at failed
  cases read : reader.run bytes with
  | error e =>
      rw [read] at failed
      obtain rfl := Except.error.inj failed
      exact first bytes fault read
  | ok result =>
      rw [read] at failed
      exact second result.1 result.2 fault failed

theorem word (width : Nat) : NeverThrows (ByteReader.word Exit.rejected width) := by
  intro bytes fault failed
  unfold ByteReader.word StateT.run at failed
  dsimp only at failed
  split at failed <;> cases failed

theorem raw (count : Nat) : NeverThrows (ByteReader.raw Exit.rejected count) := by
  intro bytes fault failed
  unfold ByteReader.raw StateT.run at failed
  dsimp only at failed
  split at failed <;> cases failed

theorem u8 : NeverThrows BinReader.u8 := bind (word 1) fun _ => pure _

theorem u32 : NeverThrows BinReader.u32 := bind (word 4) fun _ => pure _

theorem u64 : NeverThrows BinReader.u64 := bind (word 8) fun _ => pure _

theorem i32 : NeverThrows BinReader.i32 := bind u32 fun _ => pure _

theorem i64 : NeverThrows BinReader.i64 := bind u64 fun _ => pure _

theorem bool : NeverThrows BinReader.bool := bind u8 fun _ => pure _

theorem str : NeverThrows BinReader.str := bind u32 fun _ => raw _

theorem rejectIf (condition : Prop) [Decidable condition] :
    NeverThrows (BinReader.rejectIf condition) := by
  unfold BinReader.rejectIf
  split
  · exact fun _ _ => nofun
  · exact pure ()

theorem decodeHeader : NeverThrows decodeHeader := by
  unfold PowerGovernor.decodeHeader
  iterate 4 refine bind u64 fun _ => ?_
  refine bind str fun _ => ?_
  exact pure _

theorem decodeCount : NeverThrows decodeCount := by
  unfold PowerGovernor.decodeCount
  refine bind u32 fun _ => ?_
  refine bind (rejectIf _) fun _ => ?_
  exact pure _

theorem rawCap : NeverThrows rawCap := by
  unfold PowerGovernor.rawCap
  refine bind bool fun present => ?_
  cases present with
  | false => exact pure _
  | true =>
      refine bind i64 fun _ => ?_
      exact pure _

theorem rawBudget : NeverThrows rawBudget := by
  unfold PowerGovernor.rawBudget
  iterate 4 refine bind u64 fun _ => ?_
  refine bind str fun _ => ?_
  iterate 6 refine bind i64 fun _ => ?_
  refine bind i32 fun _ => ?_
  refine bind bool fun _ => ?_
  exact pure _

theorem rawReservation : NeverThrows rawReservation := by
  unfold PowerGovernor.rawReservation
  iterate 3 refine bind u64 fun _ => ?_
  refine bind u8 fun _ => ?_
  iterate 2 refine bind i64 fun _ => ?_
  iterate 5 refine bind u64 fun _ => ?_
  iterate 2 refine bind i64 fun _ => ?_
  refine bind u8 fun _ => ?_
  iterate 2 refine bind i64 fun _ => ?_
  exact pure _

theorem rawMeter : NeverThrows rawMeter := by
  unfold PowerGovernor.rawMeter
  refine bind u64 fun _ => ?_
  refine bind i64 fun _ => ?_
  exact pure _

end BinReader.NeverThrows

/-- A record of which the raw fields are read throws exactly when its building does. -/
theorem run_built_threw {α β : Type} {raw : BinReader α} {build : α → Except Exit β}
    (quiet : raw.NeverThrows) {bytes : Bytes} {fault : Fault} :
    (raw >>= fun a => BinReader.ofExcept (build a)).run bytes = .error (.threw fault) ↔
      ∃ a rest, raw.run bytes = .ok (a, rest) ∧ build a = .error (.threw fault) := by
  rw [run_built_eq_error]
  exact or_iff_right (quiet bytes fault)

/-! ## Which records throw -/

/-- The nanoseconds are in the range of a `Duration`. -/
def DurationFits (n : Int64) : Prop := 0 ≤ n.toInt ∧ n.toInt ≤ kMaxNs

theorem constructed_watts {v : ℚ} (nonneg : 0 ≤ v) :
    constructed (Quantity.construct v) = .ok (⟨v, nonneg⟩ : Watts) := by
  have built : (Quantity.construct v : Except Fault Watts) = .ok ⟨v, nonneg⟩ :=
    Quantity.construct_eq_ok.mpr rfl
  rw [built]
  rfl

theorem constructed_joules {v : ℚ} (nonneg : 0 ≤ v) :
    constructed (Quantity.construct v) = .ok (⟨v, nonneg⟩ : Joules) := by
  have built : (Quantity.construct v : Except Fault Joules) = .ok ⟨v, nonneg⟩ :=
    Quantity.construct_eq_ok.mpr rfl
  rw [built]
  rfl

theorem constructed_duration {n : Int64} (fits : DurationFits n) :
    constructed (Duration.construct n.toInt) = .ok ⟨n.toInt, fits.1, fits.2⟩ := by
  have built : Duration.construct n.toInt = .ok ⟨n.toInt, fits.1, fits.2⟩ :=
    Duration.construct_eq_ok.mpr rfl
  rw [built]
  rfl

theorem constructed_duration_of_not {n : Int64} (outside : ¬ DurationFits n) :
    ∃ fault, constructed (Duration.construct n.toInt) = .error (.threw fault) := by
  cases built : Duration.construct n.toInt with
  | ok duration =>
      have value := Duration.construct_eq_ok.mp built
      exact absurd ⟨value ▸ duration.nonneg, value ▸ duration.bounded⟩ outside
  | error fault => exact ⟨fault, rfl⟩

/-- A cap throws exactly when it is negative. -/
theorem buildCap_threw_iff {raw : Option Thousandths} :
    (∃ fault, buildCap raw = .error (.threw fault)) ↔ ∃ v, raw = some v ∧ v.value < 0 := by
  cases raw with
  | none => exact ⟨fun ⟨_, failed⟩ => (nomatch failed), fun ⟨_, absent, _⟩ => (nomatch absent)⟩
  | some v =>
      by_cases negative : v.value < 0
      · refine ⟨fun _ => ⟨v, rfl, negative⟩, fun _ => ?_⟩
        show ∃ fault,
          (constructed (Quantity.construct v.value) >>= fun cap => Except.ok (some cap)) =
            .error (.threw fault)
        cases built : (Quantity.construct v.value : Except Fault Watts) with
        | ok power =>
            have value := Quantity.construct_eq_ok.mp built
            exact absurd (Watts.nonneg power) (not_le.mpr (value ▸ negative))
        | error fault => exact ⟨fault, rfl⟩
      · constructor
        · rintro ⟨fault, failed⟩
          change (constructed (Quantity.construct v.value) >>= fun cap => Except.ok (some cap)) =
            .error (.threw fault) at failed
          rw [constructed_watts (not_lt.mp negative)] at failed
          cases failed
        · rintro ⟨_, ⟨⟩, below⟩
          exact absurd below negative

namespace RawBudget

variable {raw : RawBudget}

/-- A budget record throws exactly when it passes the sign check and one of its
two durations is out of range. -/
theorem build_threw_iff : (∃ fault, raw.build = .error (.threw fault)) ↔
    ¬ raw.Refused ∧ ¬ (DurationFits raw.bw ∧ DurationFits raw.rec_) := by
  unfold build
  by_cases refused : raw.Refused
  · rw [if_pos refused]
    exact ⟨fun ⟨_, failed⟩ => (nomatch failed), fun accepted => absurd refused accepted.1⟩
  rw [if_neg refused]
  have signs := refused
  unfold Refused at signs
  simp only [not_or, not_lt] at signs
  rw [constructed_watts signs.1, constructed_watts signs.2.1, constructed_watts signs.2.2.1,
    constructed_watts signs.2.2.2]
  dsimp only [bind, Except.bind]
  by_cases window : DurationFits raw.bw
  · rw [constructed_duration window]
    dsimp only
    by_cases recovery : DurationFits raw.rec_
    · rw [constructed_duration recovery]
      exact ⟨fun ⟨_, failed⟩ => (nomatch failed),
        fun outside => absurd ⟨window, recovery⟩ outside.2⟩
    · obtain ⟨fault, failed⟩ := constructed_duration_of_not recovery
      rw [failed]
      exact ⟨fun _ => ⟨refused, fun fits => recovery fits.2⟩, fun _ => ⟨fault, rfl⟩⟩
  · obtain ⟨fault, failed⟩ := constructed_duration_of_not window
    rw [failed]
    exact ⟨fun _ => ⟨refused, fun fits => window fits.1⟩, fun _ => ⟨fault, rfl⟩⟩

end RawBudget

namespace RawReservation

variable {raw : RawReservation}

/-- A reservation record throws exactly when it passes the checks of the decoder
and its requested energy or its validity is out of range. -/
theorem build_threw_iff : (∃ fault, raw.build = .error (.threw fault)) ↔
    (WorkloadPowerClass.ofByte? raw.cls).isSome ∧ (ReservationState.ofByte? raw.state).isSome ∧
      ¬ raw.Refused ∧ ¬ (0 ≤ raw.energy.value ∧ DurationFits raw.validity) := by
  unfold build
  cases WorkloadPowerClass.ofByte? raw.cls with
  | none => exact ⟨fun ⟨_, failed⟩ => (nomatch failed), fun ⟨known, _⟩ => (nomatch known)⟩
  | some powerClass =>
      cases ReservationState.ofByte? raw.state with
      | none => exact ⟨fun ⟨_, failed⟩ => (nomatch failed), fun ⟨_, known, _⟩ => (nomatch known)⟩
      | some state =>
          show (∃ fault, (if raw.Refused then _ else _) = _) ↔ _
          by_cases refused : raw.Refused
          · rw [if_pos refused]
            exact ⟨fun ⟨_, failed⟩ => (nomatch failed),
              fun accepted => absurd refused accepted.2.2.1⟩
          rw [if_neg refused]
          have signs := refused
          unfold Refused at signs
          simp only [not_or, not_lt] at signs
          rw [constructed_watts signs.1, constructed_watts signs.2.1, constructed_joules signs.2.2]
          dsimp only [bind, Except.bind]
          by_cases energy : 0 ≤ raw.energy.value
          · rw [constructed_joules energy]
            dsimp only
            by_cases validity : DurationFits raw.validity
            · rw [constructed_duration validity]
              exact ⟨fun ⟨_, failed⟩ => (nomatch failed),
                fun outside => absurd ⟨energy, validity⟩ outside.2.2.2⟩
            · obtain ⟨fault, failed⟩ := constructed_duration_of_not validity
              rw [failed]
              exact ⟨fun _ => ⟨rfl, rfl, refused, fun fits => validity fits.2⟩,
                fun _ => ⟨fault, rfl⟩⟩
          · cases built : (Quantity.construct raw.energy.value : Except Fault Joules) with
            | ok amount =>
                have value := Quantity.construct_eq_ok.mp built
                exact absurd (value ▸ Joules.nonneg amount) energy
            | error fault =>
                exact ⟨fun _ => ⟨rfl, rfl, refused, fun fits => energy fits.1⟩,
                  fun _ => ⟨fault, rfl⟩⟩

end RawReservation

/-- A meter record never throws. -/
theorem RawMeter.build_not_threw {raw : RawMeter} (fault : Fault) :
    raw.build ≠ .error (.threw fault) := by
  unfold RawMeter.build
  split
  · exact nofun
  · rename_i accepted
    rw [constructed_joules (not_lt.mp accepted)]
    exact nofun

end PowerGovernor
