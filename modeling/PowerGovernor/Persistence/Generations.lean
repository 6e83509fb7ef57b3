import PowerGovernor.Governor.Lifecycle
import PowerGovernor.Persistence.LoadedState
import PowerGovernor.Persistence.Loading

/-!
Generations over the calls of a Governor.

Owns the order in which the epoch, the policy generation, the budget generations
and the observation generation stand before and after a call, and the exact
condition under which a call moves none of them back. Installations are guarded;
recoveries, invalidations and a counter at its end are not.
-/

set_option autoImplicit false

namespace PowerGovernor

namespace Generation

variable {tag : GenerationTag}

theorem le_null_iff {generation : Generation tag} : generation ≤ null ↔ generation = null := by
  constructor
  · intro le
    have zero : generation.raw.toNat ≤ 0 := le
    cases generation
    exact congrArg mk (UInt64.toNat_inj.mp (Nat.le_zero.mp zero))
  · rintro rfl
    exact Generation.le_refl null

/-- The counter moves back only at its end. -/
theorem le_next_iff {generation : Generation tag} :
    generation ≤ generation.next ↔ generation.raw.toNat + 1 < 2 ^ 64 := by
  show generation.raw.toNat ≤ (generation.raw + 1).toNat ↔ _
  have bounded := generation.raw.toNat_lt
  rw [UInt64.toNat_add, UInt64.toNat_one]
  omega

end Generation

/-! ## Budgets -/

namespace BudgetManager

/-- Every installed budget stays installed, at no older generation. -/
def Supersedes (m m' : BudgetManager) : Prop :=
  ∀ id s, m.state? id = some s →
    ∃ s', m'.state? id = some s' ∧ s.cfg.generation ≤ s'.cfg.generation

theorem supersedes_refl (m : BudgetManager) : m.Supersedes m :=
  fun _ s found => ⟨s, found, Generation.le_refl _⟩

theorem Supersedes.trans {m m' m'' : BudgetManager} (first : m.Supersedes m')
    (second : m'.Supersedes m'') : m.Supersedes m'' := by
  intro id s found
  obtain ⟨s', found', le⟩ := first id s found
  obtain ⟨s'', found'', le'⟩ := second id s' found'
  exact ⟨s'', found'', Generation.le_trans le le'⟩

/-- Accounting keeps the definitions. -/
theorem supersedes_of_cfg {m m' : BudgetManager}
    (same : ∀ k, (m'.state? k).map BudgetState.cfg = (m.state? k).map BudgetState.cfg) :
    m.Supersedes m' := by
  intro id s found
  have cfg := same id
  rw [found] at cfg
  obtain ⟨s', found', definition⟩ := Option.map_eq_some_iff.mp cfg
  refine ⟨s', found', ?_⟩
  rw [definition]
  exact Generation.le_refl _

/-- A re-issued budget keeps its accounting. -/
theorem install_newer {m : BudgetManager} {b : PowerBudget} {old : BudgetState}
    (present : m.state? b.id = some old) (newer : ¬ b.generation ≤ old.cfg.generation)
    (k : BudgetId) : (m.install b).1.state? k =
      if k = b.id then some { old with cfg := b } else m.state? k := by
  unfold install
  rw [present]
  dsimp only
  rw [if_neg newer]
  have renamed : ∀ old : BudgetState, old.cfg.id = b.id → ({ old with cfg := b }).cfg.id = b.id :=
    fun _ _ => rfl
  have written : (m.states.modify b.id (fun old => { old with cfg := b }) renamed).find? k = _ :=
    Keyed.find?_modify k
  rw [show m.states.find? b.id = some old from present] at written
  exact written

theorem supersedes_install (m : BudgetManager) (b : PowerBudget) :
    m.Supersedes (m.install b).1 := by
  rcases install_cases m b with
    ⟨absent, _⟩ | ⟨_, _, _, refused⟩ | ⟨old, present, newer, _⟩
  · intro id s found
    refine ⟨s, ?_, Generation.le_refl _⟩
    rw [(install_fresh absent).2, if_neg, found]
    rintro rfl
    rw [absent] at found
    cases found
  · rw [refused]
    exact m.supersedes_refl
  · intro id s found
    rw [install_newer present newer]
    split
    · rename_i same
      rw [same, present] at found
      obtain rfl := Option.some.inj found
      exact ⟨_, rfl, Generation.le_of_not_le newer⟩
    · exact ⟨s, found, Generation.le_refl _⟩

theorem supersedes_installAll {m m' : BudgetManager} {budgets : List PowerBudget}
    (accepted : m.installAll budgets = some m') : m.Supersedes m' := by
  induction budgets generalizing m with
  | nil =>
      obtain rfl := Option.some.inj accepted
      exact m.supersedes_refl
  | cons b rest inductionHypothesis =>
      have first := m.supersedes_install b
      unfold installAll at accepted
      generalize m.install b = result at accepted first
      obtain ⟨next, ok⟩ := result
      cases ok with
      | false => cases accepted
      | true => exact first.trans (inductionHypothesis accepted)

theorem book_cfg (counter : Counter) (needsAuthority : Bool) (m : BudgetManager) (id : BudgetId)
    (amount : Watts) (gen : BudgetGeneration) (k : BudgetId) :
    ((m.book counter needsAuthority id amount gen).1.state? k).map BudgetState.cfg =
      (m.state? k).map BudgetState.cfg := by
  rcases m.book_cases counter needsAuthority id amount gen with ⟨refused, _⟩ | ⟨granted, _⟩
  · rw [refused]
  · rw [granted]
    exact adjustChain_cfg _ _ _ k

theorem unbook_cfg (counter : Counter) (m : BudgetManager) (id : BudgetId) (amount : Watts)
    (gen : BudgetGeneration) (k : BudgetId) :
    ((m.unbook counter id amount gen).1.state? k).map BudgetState.cfg =
      (m.state? k).map BudgetState.cfg := by
  rcases m.unbook_cases counter id amount gen with ⟨refused, _⟩ | ⟨granted, _⟩
  · rw [refused]
  · rw [granted]
    exact adjustChain_cfg _ _ _ k

theorem supersedes_exec (m : BudgetManager) (call : BudgetCall) :
    m.Supersedes (call.exec m).1 := by
  cases call with
  | install b => exact m.supersedes_install b
  | reserve => exact supersedes_of_cfg (book_cfg _ _ m _ _ _)
  | release => exact supersedes_of_cfg (unbook_cfg _ m _ _ _)
  | activate => exact supersedes_of_cfg (book_cfg _ _ m _ _ _)
  | deactivate => exact supersedes_of_cfg (unbook_cfg _ m _ _ _)

/-- Claiming capacity again changes no definition. -/
theorem supersedes_reclaim (m : BudgetManager) (r : Reservation) :
    m.Supersedes (reclaim m r) := by
  unfold reclaim
  split
  · refine supersedes_of_cfg fun k => ?_
    rw [cfg_state?_eq, cfg_state?_eq]
    exact congrArg (List.find? _) (InDoubles.snapshots_book _ _ m _ _ _)
  · exact m.supersedes_refl

theorem supersedes_foldl_reclaim (m : BudgetManager) (reservations : List Reservation) :
    m.Supersedes (reservations.foldl reclaim m) := by
  induction reservations generalizing m with
  | nil => exact m.supersedes_refl
  | cons r rest inductionHypothesis =>
      exact (m.supersedes_reclaim r).trans (inductionHypothesis (reclaim m r))

end BudgetManager

/-! ## Steps that move nothing back -/

/-- Nothing is older than before: the epoch, the policy generation, the generation
of every installed budget and the observation generation of the device. -/
structure NoRollback (g g' : Governor) : Prop where
  epoch : g.authority.epoch ≤ g'.authority.epoch
  policy : g.policy.generation ≤ g'.policy.generation
  budgets : g.budgets.Supersedes g'.budgets
  observation : g.live.obsGen ≤ g'.live.obsGen

namespace NoRollback

variable {g g' : Governor}

/-- Only the budgets changed, and none of them to an older generation. -/
theorem of_surroundings (same : g'.surroundings = g.surroundings)
    (budgets : g.budgets.Supersedes g'.budgets) : NoRollback g g' := by
  unfold Governor.surroundings at same
  obtain ⟨_, authority, policy, device⟩ : g'.cfg = g.cfg ∧ g'.authority = g.authority ∧
      g'.policy = g.policy ∧ g'.device = g.device := by simpa using same
  constructor
  · rw [authority]
    exact Generation.le_refl _
  · rw [policy]
    exact Generation.le_refl _
  · exact budgets
  · unfold Governor.live
    rw [device]
    exact Generation.le_refl _

theorem refl (g : Governor) : NoRollback g g := of_surroundings rfl g.budgets.supersedes_refl

/-- Only the device changed. -/
theorem device_iff (authority : g'.authority.epoch = g.authority.epoch)
    (policy : g'.policy = g.policy) (budgets : g'.budgets = g.budgets) :
    NoRollback g g' ↔ g.live.obsGen ≤ g'.live.obsGen := by
  constructor
  · exact NoRollback.observation
  · intro observation
    refine ⟨?_, ?_, ?_, observation⟩
    · rw [authority]
      exact Generation.le_refl _
    · rw [policy]
      exact Generation.le_refl _
    · rw [budgets]
      exact g.budgets.supersedes_refl

end NoRollback

namespace Governor

variable {g : Governor}

/-- The epoch and the policy of a file are no older than the current ones, where
the load writes them, and a file that is taken over finds no numbered observation. -/
def LoadsForward (g : Governor) (file : Option Bytes) : Prop :=
  ∀ bytes, file = some bytes → ∀ envelope, decodeEnvelope bytes = .ok envelope →
    ∀ header rest, decodeHeader.run envelope.blob = .ok (header, rest) →
      g.authority.epoch ≤ header.epoch ∧
      (∀ caps rest', (ByteReader.readAll decodeCap 4).run rest = .ok (caps, rest') →
        g.policy.generation ≤ header.policyGeneration) ∧
      ∀ contents m, StateFile.ofBytes bytes = some contents →
        g.Takes contents.budgets contents.reservations m → g.live.obsGen = .null

end Governor

/-- A call that no file, no invalidation and no exhausted counter takes back. -/
def GovernorCall.Forward (g : Governor) : GovernorCall → Prop
  | .observeBackend _ _ => g.live.obsGen.raw.toNat + 1 < 2 ^ 64
  | .load file _ => g.LoadsForward file
  | .invalidateLiveTelemetry => g.live.obsGen = .null
  | _ => True

/-! ## Call by call -/

namespace Governor

theorem obsGen_invalidate (g : Governor) : g.invalidateLiveTelemetry.live.obsGen = .null := by
  unfold live invalidateLiveTelemetry
  cases g.device <;> rfl

theorem noRollback_installPolicy (g : Governor) (p : PowerPolicy) :
    NoRollback g (g.installPolicy p).1 := by
  rcases g.installPolicy_cases p with ⟨installs, installed⟩ | ⟨_, refused⟩
  · rw [installed]
    exact {
      epoch := Generation.le_refl _
      policy := Generation.le_of_not_le installs.2.1
      budgets := g.budgets.supersedes_refl
      observation := Generation.le_refl _ }
  · rw [refused]
    exact NoRollback.refl g

/-! ## Recoveries -/

variable {g : Governor} {now : Timestamp} {bytes : Bytes}

/-- No load installs an older budget. -/
theorem supersedes_fromBudgets (g : Governor) (now : Timestamp) (bytes : Bytes) :
    g.budgets.Supersedes ((fromBudgets now bytes).exec g).2.budgets := by
  obtain ⟨budgets, m, reservations, installed, _, _, restored⟩ :=
    restored_fromBudgets g now bytes
  have left : ((fromBudgets now bytes).exec g).2.budgets = reservations.foldl reclaim m :=
    (congrArg Restored.budgets restored).trans (budgets_foldl_add _ reservations)
  rw [left]
  exact (BudgetManager.supersedes_installAll installed).trans (m.supersedes_foldl_reclaim _)

/-- A load that is taken over forgets the observation number; any other keeps it. -/
theorem obsGen_load_iff : g.live.obsGen ≤ (g.load (some bytes) now).2.live.obsGen ↔
    ∀ contents m, StateFile.ofBytes bytes = some contents →
      g.Takes contents.budgets contents.reservations m → g.live.obsGen = .null := by
  rcases g.device_load (some bytes) now with ⟨accepted, device⟩ | ⟨refused, device⟩
  · have forgotten : (g.load (some bytes) now).2.live.obsGen = .null := by
      refine Eq.trans ?_ g.obsGen_invalidate
      unfold live
      rw [device]
      rfl
    rw [forgotten, Generation.le_null_iff]
    obtain ⟨contents, m, read, takes, _⟩ := load_eq_true.mp (Prod.ext accepted rfl)
    exact ⟨fun null _ _ _ _ => null, fun null => null contents m read takes⟩
  · have same : (g.load (some bytes) now).2.live.obsGen = g.live.obsGen := by
      unfold live
      rw [device]
    rw [same]
    refine ⟨fun _ contents m read takes => ?_, fun _ => Generation.le_refl _⟩
    have loaded : g.load (some bytes) now = (.ok true, _) :=
      load_eq_true.mpr ⟨contents, m, read, takes, rfl⟩
    exact absurd (congrArg Prod.fst loaded) refused

/-- What the decoding writes of the epoch and the policy, and that it supersedes
the budgets. -/
theorem marks_decodeSections (g : Governor) (now : Timestamp) (blob : Bytes) :
    (∃ e, decodeHeader.run blob = .error e ∧
      ((decodeSections now blob).exec g).2 = g) ∨
    ∃ header rest, decodeHeader.run blob = .ok (header, rest) ∧
      ((decodeSections now blob).exec g).2.authority.epoch = header.epoch ∧
      g.budgets.Supersedes ((decodeSections now blob).exec g).2.budgets ∧
      ((∃ e, (ByteReader.readAll decodeCap 4).run rest = .error e ∧
          ((decodeSections now blob).exec g).2.policy = g.policy) ∨
        ∃ caps rest', (ByteReader.readAll decodeCap 4).run rest = .ok (caps, rest') ∧
          ((decodeSections now blob).exec g).2.policy.generation = header.policyGeneration) := by
  rcases exec_decodeSections_cases g now blob with ⟨e, unread, exec⟩ | ⟨header, rest, read, after⟩
  · refine .inl ⟨e, unread, ?_⟩
    rw [exec]
  refine .inr ⟨header, rest, read, ?_⟩
  rcases after with ⟨e, unread, exec⟩ | ⟨policy, rest', readPolicy, exec⟩
  · rw [exec]
    refine ⟨rfl, g.budgets.supersedes_refl, .inl ?_⟩
    cases readCaps : (ByteReader.readAll decodeCap 4).run rest with
    | error e => exact ⟨e, rfl, rfl⟩
    | ok caps =>
        rw [decodePolicy_eq_ok.mpr ⟨caps.1, readCaps, rfl⟩] at unread
        cases unread
  · rw [exec]
    obtain ⟨caps, readCaps, rfl⟩ := decodePolicy_eq_ok.mp readPolicy
    have kept := keeps_identity now rest' ((g.withHeader header).writePolicy
      (policyWithCaps ⟨g.ids.policy + 1⟩ header caps))
    have superseded := supersedes_fromBudgets ((g.withHeader header).writePolicy
      (policyWithCaps ⟨g.ids.policy + 1⟩ header caps)) now rest'
    generalize ((fromBudgets now rest').exec _).2 = left at kept superseded ⊢
    unfold identity at kept
    obtain ⟨authority, _, policy⟩ : left.authority = _ ∧ left.cfg = _ ∧ left.policy = _ := by
      simpa using kept
    refine ⟨?_, superseded, .inr ⟨caps, rest', readCaps, ?_⟩⟩
    · rw [authority]
      rfl
    · rw [policy]
      exact generation_policyWithCaps readCaps

/-- A load moves nothing back exactly when the file is no older than the state. -/
theorem noRollback_load_iff (g : Governor) (file : Option Bytes) (now : Timestamp) :
    NoRollback g (g.load file now).2 ↔ g.LoadsForward file := by
  unfold LoadsForward
  cases file with
  | none => exact ⟨fun _ _ => nofun, fun _ => NoRollback.refl g⟩
  | some bytes =>
      simp only [Option.some.injEq, forall_eq']
      cases decoded : decodeEnvelope bytes with
      | error text =>
          have untouched : (g.load (some bytes) now).2 = g := by
            unfold load
            dsimp only
            rw [decoded]
          rw [untouched]
          exact ⟨fun _ _ => nofun, fun _ => NoRollback.refl g⟩
      | ok envelope =>
          simp only [Except.ok.injEq, forall_eq']
          have observation := @obsGen_load_iff g now bytes
          have recovered : ∀ {T : Type} (view : Governor → T),
              (∀ g, view (invalidateLiveTelemetry g) = view g) →
              view (g.load (some bytes) now).2 =
                view ((decodeSections now envelope.blob).exec g).2 :=
            fun view ignores => view_load view ignores decoded g now
          have epoch := recovered (fun g => g.authority.epoch) fun _ => rfl
          have policy := recovered Governor.policy fun _ => rfl
          have budgets := recovered Governor.budgets fun _ => rfl
          rcases marks_decodeSections g now envelope.blob with
            ⟨e, unread, same⟩ | ⟨header, rest, read, written, superseded, after⟩
          · rw [same] at epoch policy budgets
            rw [NoRollback.device_iff epoch policy budgets, observation, unread]
            refine ⟨fun _ _ _ => nofun, fun _ contents m contained takes => ?_⟩
            obtain ⟨_, decoded', whole⟩ := StateFile.ofBytes_eq_some.mp contained
            obtain rfl := Except.ok.inj (decoded.symm.trans decoded')
            obtain ⟨_, _, _, _, read, _⟩ := StateFile.reader_eq_ok.mp whole
            rw [unread] at read
            cases read
          · simp only [read, Except.ok.injEq, Prod.mk.injEq, and_imp, forall_apply_eq_imp_iff,
              forall_eq']
            rw [← observation, ← written, ← epoch]
            constructor
            · intro forward
              refine ⟨forward.epoch, fun caps rest' readCaps => ?_, forward.observation⟩
              rcases after with ⟨_, unread, _⟩ | ⟨_, _, _, generation⟩
              · rw [unread] at readCaps
                cases readCaps
              · rw [← generation, ← policy]
                exact forward.policy
            · rintro ⟨newer, current, seen⟩
              refine ⟨newer, ?_, budgets ▸ superseded, seen⟩
              rw [policy]
              rcases after with ⟨_, _, kept⟩ | ⟨caps, rest', readCaps, generation⟩
              · rw [kept]
                exact Generation.le_refl _
              · rw [generation]
                exact current caps rest' readCaps

end Governor

/-! ## Runs -/

/-- A reservation operation moves nothing back. -/
theorem NoRollback.of_lifecycle {g : Governor} {call : GovernorCall}
    {lifecycleCall : ReservationCall} (is : call.lifecycle g = some lifecycleCall) :
    NoRollback g (call.after g) := by
  apply NoRollback.of_surroundings (GovernorCall.surroundings_after is)
  have books := GovernorCall.books_after is
  have budgets : (call.after g).budgets = (lifecycleCall.after g.books).budgets :=
    congrArg Books.budgets books
  rw [budgets]
  exact BudgetManager.supersedes_of_cfg (lifecycleCall.effect g.books).cfg

/-- A call moves nothing back exactly when it is a forward one. -/
theorem GovernorCall.noRollback_iff (g : Governor) (call : GovernorCall) :
    NoRollback g (call.after g) ↔ call.Forward g := by
  cases call with
  | installPolicy p => exact iff_of_true (g.noRollback_installPolicy p) trivial
  | installBudget b =>
      exact iff_of_true (.of_surroundings rfl (g.budgets.supersedes_install b)) trivial
  | budgetManager call =>
      exact iff_of_true (.of_surroundings rfl (g.budgets.supersedes_exec call)) trivial
  | planReservation => exact iff_of_true (.of_lifecycle rfl) trivial
  | validateReservation => exact iff_of_true (.of_lifecycle rfl) trivial
  | reserveReservation => exact iff_of_true (.of_lifecycle rfl) trivial
  | admitReservation => exact iff_of_true (.of_lifecycle rfl) trivial
  | activateReservation => exact iff_of_true (.of_lifecycle rfl) trivial
  | releaseReservation => exact iff_of_true (.of_lifecycle rfl) trivial
  | observeBackend sample now =>
      obtain ⟨generation, left⟩ := Governor.observeBackend_leaves sample now g
      have epoch : ((Governor.observeBackend sample now).exec g).2.authority.epoch =
          g.authority.epoch := by
        rw [left]
        show (g.authority.advanceObservation generation).epoch = _
        unfold AuthorityGate.advanceObservation
        split <;> rfl
      have numbered : ((Governor.observeBackend sample now).exec g).2.live.obsGen =
          g.live.obsGen.next := by
        rw [left]
        exact DeviceState.obsGen_ingest sample now g.live
      have policy := congrArg Governor.policy left
      have budgets := congrArg Governor.budgets left
      show NoRollback g ((Governor.observeBackend sample now).exec g).2 ↔ _
      rw [NoRollback.device_iff epoch policy budgets, numbered]
      exact Generation.le_next_iff
  | decideFor budget workload cls requested requestedEnergy duration now =>
      obtain ⟨burst, engine, ids, _, left⟩ :=
        Governor.decideFor_leaves budget workload cls requested requestedEnergy duration now g
      refine iff_of_true ?_ trivial
      show NoRollback g ((Governor.decideFor budget workload cls requested requestedEnergy duration
        now).exec g).2
      rw [left]
      apply (@NoRollback.device_iff g { g.withBurst burst with engine := engine, ids := ids } rfl
        rfl rfl).mpr
      unfold Governor.live Governor.withBurst
      cases g.device <;> exact Generation.le_refl _
  | accountEnergy workload energy provenance now =>
      refine iff_of_true ?_ trivial
      apply (@NoRollback.device_iff g (g.accountEnergy workload energy provenance now) rfl rfl
        rfl).mpr
      unfold Governor.live Governor.accountEnergy
      cases g.device <;> exact Generation.le_refl _
  | load file now => exact g.noRollback_load_iff file now
  | resetHysteresis =>
      exact iff_of_true (.of_surroundings rfl g.budgets.supersedes_refl) trivial
  | invalidateLiveTelemetry =>
      show NoRollback g g.invalidateLiveTelemetry ↔ _
      rw [@NoRollback.device_iff g g.invalidateLiveTelemetry rfl rfl rfl, g.obsGen_invalidate]
      exact Generation.le_null_iff

namespace Governor

/-- Nothing moves back at any step of a run exactly when every call of it is a
forward one. -/
theorem no_rollback_iff (g : Governor) (calls : List GovernorCall) :
    Along GovernorCall.after (fun g call => NoRollback g (call.after g)) g calls ↔
      Along GovernorCall.after (fun g call => call.Forward g) g calls :=
  along_congr GovernorCall.noRollback_iff g calls

/-- A policy is installed, and a file from before is loaded. -/
def policyThenOlderFile : List GovernorCall :=
  [.installPolicy (PowerPolicy.defaults ⟨5⟩ defaultName),
    .load (some (fileWith [] [] [])) Timestamp.zero]

/-- A file written before the policy was installed takes its generation back. -/
theorem policy_rolled_back :
    ¬ ∀ (cfg : GovernorConfig) (ids : Allocators) (calls : List GovernorCall),
      Along GovernorCall.after (fun g call => NoRollback g (call.after g)) (construct cfg ids)
        calls := by
  intro claimed
  obtain ⟨_, rolled, _⟩ := claimed ⟨⟨1⟩, ⟨1⟩, .first⟩ .start policyThenOlderFile
  have older := rolled.policy
  revert older
  decide +kernel

end Governor

end PowerGovernor
