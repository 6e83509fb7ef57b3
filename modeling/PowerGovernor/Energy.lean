import PowerGovernor.Clock

/-!
Energy accounting and the power window.

Owns the provenance of a sample, the energy meter with its per-provenance
totals, and the bounded window of power samples with its average.
-/

set_option autoImplicit false

namespace PowerGovernor

inductive EnergyProvenance where
  | measured | reported | derived | estimated | unknown
deriving DecidableEq, Repr

def EnergyProvenance.name : EnergyProvenance → String
  | .measured => "MEASURED"
  | .reported => "REPORTED"
  | .derived => "DERIVED"
  | .estimated => "ESTIMATED"
  | .unknown => "UNKNOWN"

/-! ## The meter -/

structure EnergyMeter where
  total : Joules
  byProvenance : EnergyProvenance → Joules
  last : Timestamp
  samples : UInt64

namespace EnergyMeter

/-- A default-constructed meter. -/
def blank : EnergyMeter where
  total := Joules.zero
  byProvenance _ := Joules.zero
  last := Timestamp.zero
  samples := 0

/-- `add`. Its check for a negative amount is the range rule of `Joules`. The sums are sums of
doubles. -/
def add (meter : EnergyMeter) (j : Joules) (p : EnergyProvenance) (sampledAt : Timestamp) :
    EnergyMeter where
  total := Joules.clampedDouble (meter.total.value + j.value)
  byProvenance := Function.update meter.byProvenance p
    (Joules.clampedDouble ((meter.byProvenance p).value + j.value))
  last := sampledAt
  samples := meter.samples + 1

end EnergyMeter

/-! ## The power window -/

/-- `PowerWindow::Sample`. -/
structure PowerSample where
  t : Timestamp
  p : Watts
deriving DecidableEq

structure PowerWindow where
  capacity : Duration
  samples : List PowerSample
  peak : Watts
deriving DecidableEq

namespace PowerWindow

def construct (capacity : Duration) : PowerWindow := ⟨capacity, [], Watts.zero⟩

/-- The loop of `trim`, and how it ends. A sample popped before the loop throws
stays popped. -/
def trimLoop (capacity : Duration) (now : Timestamp) :
    List PowerSample → List PowerSample × Except Fault Unit
  | [] => ([], .ok ())
  | front :: rest =>
    if 2 ≤ rest.length then
      match now.elapsedSince front.t with
      | .error fault => (front :: rest, .error fault)
      | .ok elapsed =>
        if capacity.ns < elapsed.ns then trimLoop capacity now rest
        else (front :: rest, .ok ())
    else (front :: rest, .ok ())

/-- `record`, and how it ends. The sample is stored before `trim` can throw. -/
def record (w : PowerWindow) (t : Timestamp) (p : Watts) : PowerWindow × Except Fault Unit :=
  if w.samples.getLast?.any fun back => decide (t.ns < back.t.ns) then
    (w, .error (.invalidArgument "pg::PowerWindow::record: out-of-order timestamp"))
  else
    let (samples, ended) := trimLoop w.capacity t (w.samples ++ [⟨t, p⟩])
    let peak := if w.peak.value < p.value then p else w.peak
    ({ w with samples := samples, peak := peak }, ended)

def clear (w : PowerWindow) : PowerWindow := { w with samples := [], peak := Watts.zero }

/-- The seconds between the first and the last retained sample. -/
def spanSeconds (w : PowerWindow) : Except Fault ℚ :=
  match w.samples, w.samples.getLast? with
  | front :: _ :: _, some back => do
    let elapsed ← back.t.elapsedSince front.t
    return elapsed.secondsF
  | _, _ => .ok 0

/-- The trapezoidal sum of `integrated_energy_us`. -/
def integrate : List PowerSample → Except Fault ℚ
  | first :: second :: rest => do
    let elapsed ← second.t.elapsedSince first.t
    let acc ← integrate (second :: rest)
    return 1 / 2 * (first.p.value + second.p.value) * elapsed.secondsF + acc
  | _ => .ok 0

/-- `integrated_energy_us` is `noexcept`. -/
def integratedEnergyUs (w : PowerWindow) : Except Fault Joules := noexcept do
  Quantity.construct (← integrate w.samples)

/-- `average_power` is `noexcept`. -/
def averagePower (w : PowerWindow) : Except Fault ℚ := noexcept do
  match w.samples, w.samples.getLast? with
  | _ :: _ :: _, some back =>
    let e : Joules ← Quantity.construct (← integrate w.samples)
    let span ← w.spanSeconds
    if span ≤ 0 then return back.p.value
    return e.value / span
  | front :: _, _ => return front.p.value
  | [], _ => return 0

end PowerWindow

end PowerGovernor
