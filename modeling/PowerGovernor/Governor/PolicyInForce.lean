import PowerGovernor.Governor.Lifecycle
import PowerGovernor.Persistence.Loading

/-!
The policy in force.

Owns the policy that a call puts into force, if it does, and the exact condition
under which only valid policies are in force along a run. A recovery puts the
defaults with the recovered caps into force, also when it fails afterwards, and an
install takes what the caller hands it.
-/

set_option autoImplicit false

namespace PowerGovernor

namespace Governor

/-- The policy a load writes: it reads the header and the caps of a sound envelope. -/
def loadedPolicy? (g : Governor) (file : Option Bytes) : Option PowerPolicy :=
  match file with
  | none => none
  | some bytes =>
    match decodeEnvelope bytes with
    | .error _ => none
    | .ok envelope =>
      match decodeHeader.run envelope.blob with
      | .error _ => none
      | .ok (header, rest) =>
        match (decodePolicy ⟨g.ids.policy + 1⟩ header).run rest with
        | .error _ => none
        | .ok (p, _) => some p

end Governor

/-- The policy a call puts into force. -/
def GovernorCall.installed? (g : Governor) : GovernorCall → Option PowerPolicy
  | .installPolicy p => if g.Installs p then some p else none
  | .load file _ => g.loadedPolicy? file
  | _ => none

namespace Governor

variable {g : Governor}

theorem policy_load (g : Governor) (file : Option Bytes) (now : Timestamp) :
    (g.load file now).2.policy = (g.loadedPolicy? file).getD g.policy := by
  cases file with
  | none => rfl
  | some bytes =>
      dsimp only [loadedPolicy?]
      cases decoded : decodeEnvelope bytes with
      | error text =>
          unfold load
          dsimp only
          rw [decoded]
          rfl
      | ok envelope =>
          rw [view_load policy (fun _ => rfl) decoded g now]
          dsimp only
          rcases exec_decodeSections_cases g now envelope.blob with
            ⟨e, unread, exec⟩ | ⟨header, rest, read, after⟩
          · rw [exec, unread]
            rfl
          rw [read]
          dsimp only
          rcases after with ⟨e, unread, exec⟩ | ⟨p, rest', readPolicy, exec⟩
          · rw [exec, unread]
            rfl
          · rw [exec, readPolicy]
            have kept := keeps_identity now rest' ((g.withHeader header).writePolicy p)
            exact congrArg (fun seen => seen.2.2) kept

/-- A recovered policy has the defaults but for its id, its name, its generation and
its caps. -/
theorem eq_of_loadedPolicy? {file : Option Bytes} {p : PowerPolicy}
    (loaded : g.loadedPolicy? file = some p) :
    ∃ header caps, p = policyWithCaps ⟨g.ids.policy + 1⟩ header caps := by
  unfold loadedPolicy? at loaded
  repeat' split at loaded
  all_goals try cases loaded
  rename_i header _ _ _ _ readPolicy
  obtain ⟨caps, _, made⟩ := decodePolicy_eq_ok.mp readPolicy
  exact ⟨header, caps, made⟩

end Governor

theorem validate_policyWithCaps (id : PolicyId) (header : StateHeader)
    (caps : List (Option Watts)) : (policyWithCaps id header caps).validate = .ok () := by
  have defaults := PowerPolicy.validate_defaults id header.policyName
  unfold policyWithCaps
  split
  · exact defaults
  · exact defaults

namespace GovernorCall

variable {g : Governor} {call : GovernorCall}

/-- After every call the policy it puts into force is in force, or the one before. -/
theorem policy_after (g : Governor) (call : GovernorCall) :
    (call.after g).policy = (call.installed? g).getD g.policy := by
  have operation : ∀ lifecycleCall, call.lifecycle g = some lifecycleCall →
      (call.after g).policy = g.policy := by
    intro lifecycleCall is
    exact congrArg (fun seen => seen.2.2.1) (surroundings_after is)
  cases call with
  | installPolicy p =>
      show (g.installPolicy p).1.policy = (if g.Installs p then some p else none).getD g.policy
      rcases g.installPolicy_cases p with ⟨installs, installed⟩ | ⟨refuses, refused⟩
      · rw [installed, if_pos installs]
        rfl
      · rw [refused, if_neg refuses]
        rfl
  | load file now => exact g.policy_load file now
  | observeBackend sample now =>
      obtain ⟨generation, left⟩ := Governor.observeBackend_leaves sample now g
      have same := congrArg Governor.policy left
      exact same
  | decideFor budget workload cls requested requestedEnergy duration now =>
      obtain ⟨burst, engine, ids, _, left⟩ :=
        Governor.decideFor_leaves budget workload cls requested requestedEnergy duration now g
      have same := congrArg Governor.policy left
      exact same
  | installBudget | budgetManager | accountEnergy | resetHysteresis | invalidateLiveTelemetry =>
      rfl
  | _ => exact operation _ rfl

/-- An accepted install hands over a policy that passes its check. -/
def InstallsValid (g : Governor) : GovernorCall → Prop
  | .installPolicy p => g.Installs p → p.validate = .ok ()
  | _ => True

/-- From a valid policy a call leaves a valid one exactly under this condition. -/
theorem valid_after_iff (valid : g.policy.validate = .ok ()) :
    (call.after g).policy.validate = .ok () ↔ call.InstallsValid g := by
  rw [policy_after]
  cases call with
  | installPolicy p =>
      show ((if g.Installs p then some p else none).getD g.policy).validate = .ok () ↔
        (g.Installs p → p.validate = .ok ())
      by_cases installs : g.Installs p
      · rw [if_pos installs, forall_prop_of_true installs]
        rfl
      · rw [if_neg installs]
        exact iff_of_true valid fun holds => absurd holds installs
  | load file now =>
      refine iff_of_true ?_ trivial
      show ((g.loadedPolicy? file).getD g.policy).validate = .ok ()
      cases loaded : g.loadedPolicy? file with
      | none => exact valid
      | some p =>
          obtain ⟨header, caps, rfl⟩ := Governor.eq_of_loadedPolicy? loaded
          exact validate_policyWithCaps _ header caps
  | _ => exact iff_of_true valid trivial

end GovernorCall

namespace Governor

/-- From a new Governor every policy in force passes its check exactly when every
accepted install hands over one that does. -/
theorem policies_valid_iff (cfg : GovernorConfig) (ids : Allocators) (calls : List GovernorCall) :
    (construct cfg ids).policy.validate = .ok () ∧
      (Along (fun g (call : GovernorCall) => call.after g)
          (fun g call => (call.after g).policy.validate = .ok ()) (construct cfg ids) calls ↔
        Along (fun g (call : GovernorCall) => call.after g) (fun g call => call.InstallsValid g)
          (construct cfg ids) calls) := by
  have start : (construct cfg ids).policy.validate = .ok () :=
    PowerPolicy.validate_defaults ids.allocatePolicy.1 defaultName
  refine ⟨start, along_congr_of_invariant (fun g => g.policy.validate = .ok ()) ?_ ?_ start calls⟩
  · exact fun g call valid => GovernorCall.valid_after_iff valid
  · exact fun g call _ meets => meets

/-- An enforced energy window without a budget. -/
def emptyWindowPolicy : PowerPolicy :=
  { PowerPolicy.defaults ⟨9⟩ defaultName with
    energyWindow := { EnergyWindow.blank with enforce := true } }

/-- It is installed, and the check would throw. -/
theorem invalid_policy_in_force :
    ¬ ∀ s, governorRuns.Reachable s → s.1.policy.validate = .ok () := by
  intro always
  have valid := always _ (reachable_foldl (.start ⟨⟨⟨1⟩, ⟨1⟩, .first⟩, .start, rfl⟩)
    [.installPolicy emptyWindowPolicy])
  exact absurd valid (by decide +kernel)

end Governor

end PowerGovernor
