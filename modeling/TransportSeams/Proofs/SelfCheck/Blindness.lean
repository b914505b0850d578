import TransportSeams.Proofs.Adapter.Blindness
import TransportSeams.SelfCheck

/-!
The self-check is blind. Its world may have been told anything before; what it registers, uses and
reports is the same.
-/

set_option autoImplicit false
set_option relaxedAutoImplicit false

namespace TransportSeams

open Attempt

namespace Reference

open TransportSeams.Action (isBlind_bind isBlind_pure)

theorem plainType_isBlind (name : String) : (Action.plainType name).IsBlind :=
  isBlind_bind Action.freshTransport_isBlind fun _ => isBlind_pure _

theorem typeSeam_isBlind (target member name : String) : (typeSeam target member name).IsBlind :=
  isBlind_bind (plainType_isBlind name) fun _ => isBlind_pure _

theorem handlerSeam_isBlind (target member : String) : (handlerSeam target member).IsBlind :=
  isBlind_bind Action.freshFunction_isBlind fun _ => isBlind_pure _

theorem poolClassSeams_isBlind (target : String) (type : TransportType) :
    (poolClassSeams target type).IsBlind :=
  isBlind_bind Action.freshFunction_isBlind fun _ =>
    isBlind_bind Action.freshFunction_isBlind fun _ => isBlind_pure _

theorem poolingSeams_isBlind (backend : Backend) : (poolingSeams backend).IsBlind := by
  refine isBlind_bind (plainType_isBlind _) fun http => ?_
  refine isBlind_bind (plainType_isBlind _) fun https => ?_
  refine isBlind_bind Action.freshFunction_isBlind fun probe => ?_
  refine isBlind_bind (poolClassSeams_isBlind _ http) fun httpPool => ?_
  exact isBlind_bind (poolClassSeams_isBlind _ https) fun _ => isBlind_pure _

theorem timeoutSeams_isBlind : timeoutSeams.IsBlind :=
  isBlind_bind (plainType_isBlind _) fun _ =>
    isBlind_bind (plainType_isBlind _) fun _ => isBlind_pure _

theorem seams_isBlind (backend : Backend) : (seams backend).IsBlind := by
  have types (target member name : String) := typeSeam_isBlind target member name
  have handlers (target member : String) := handlerSeam_isBlind target member
  cases backend with
  | stdHttp =>
    exact isBlind_bind (types _ _ _) fun _ => isBlind_bind (types _ _ _) fun _ => isBlind_pure _
  | sessions => exact poolingSeams_isBlind .sessions
  | aws =>
    exact isBlind_bind (types _ _ _) fun _ => isBlind_bind (types _ _ _) fun _ => isBlind_pure _
  | pooled => exact poolingSeams_isBlind .pooled
  | timeoutHttp => exact timeoutSeams_isBlind
  | certHttp => exact isBlind_bind (types _ _ _) fun _ => isBlind_pure _
  | asyncFetch =>
    exact isBlind_bind (handlers _ _) fun _ => isBlind_bind (handlers _ _) fun _ => isBlind_pure _
  | clientSession => exact isBlind_bind (handlers _ _) fun _ => isBlind_pure _
  | dualClient =>
    exact isBlind_bind (handlers _ _) fun _ => isBlind_bind (handlers _ _) fun _ => isBlind_pure _

theorem manifest_isBlind (backend : Backend) : (manifest backend).IsBlind :=
  isBlind_bind (seams_isBlind backend) fun _ => isBlind_pure _

theorem register_isBlind (registry : RegistryId) (backends : List Backend) :
    (register registry backends).IsBlind := by
  induction backends with
  | nil => exact Attempt.isBlind_pure ()
  | cons backend rest ih =>
    refine Attempt.isBlind_bind (isBlind_lift (manifest_isBlind backend)) fun manifest => ?_
    exact Attempt.isBlind_bind (registerBackend_isBlind registry manifest) fun _ => ih

end Reference

namespace SelfCheck

theorem makePools_isBlind (registry : RegistryId) (classes : List (Backend × String)) :
    (makePools registry classes).IsBlind := by
  induction classes with
  | nil => exact isBlind_pure []
  | cons poolClass rest ih =>
    refine isBlind_bind (isBlind_lift (Action.newPool_isBlind _)) fun pool => ?_
    refine isBlind_bind (newConnection_isBlind registry pool) fun connection => ?_
    refine isBlind_bind (isBlind_lift (Action.putIdle_isBlind pool connection)) fun _ => ?_
    exact isBlind_bind ih fun _ => isBlind_pure _

theorem exercisePools_isBlind (registry : RegistryId) (pools : List PoolId) :
    (exercisePools registry pools).IsBlind := by
  induction pools with
  | nil => exact isBlind_pure 0
  | cons id rest ih =>
    refine isBlind_bind (getConnection_isBlind registry id) fun connection => ?_
    dsimp only
    split
    · refine isBlind_bind (isBlind_lift (Action.pool_isBlind id)) fun pool => ?_
      exact isBlind_bind (isBlind_throw _) fun _ =>
        isBlind_bind (isBlind_lift (Action.putIdle_isBlind id connection)) fun _ =>
          isBlind_bind ih fun _ => isBlind_pure _
    · exact isBlind_bind (isBlind_lift (Action.putIdle_isBlind id connection)) fun _ =>
        isBlind_bind ih fun _ => isBlind_pure _

theorem exercise_isBlind (registry : RegistryId) (pools : List PoolId) :
    (exercise registry pools).IsBlind := by
  refine isBlind_bind (exercisePools_isBlind registry pools) fun checkouts => ?_
  refine isBlind_bind (isBlind_lift (Action.registry_isBlind registry)) fun current => ?_
  exact isBlind_bind (isBlind_ofExcept _) fun _ => isBlind_pure _

theorem checkPools_isBlind (pools : List PoolId) : (checkPools pools).IsBlind := by
  induction pools with
  | nil => exact isBlind_pure ()
  | cons id rest ih =>
    refine isBlind_bind (isBlind_lift (Action.pool_isBlind id)) fun pool => ?_
    dsimp only
    split
    · exact isBlind_bind (isBlind_throw _) fun _ => ih
    · exact ih

theorem checkTeardown_isBlind (registry : RegistryId) (pools : List PoolId)
    (report : TeardownReport) : (checkTeardown registry pools report).IsBlind := by
  have checked : IsBlind (do
      let leftover := (← Action.registry registry).patchedKeys
      unless leftover = [] do
        throw (.teardown (.notRestored leftover))
      checkPools pools) := by
    refine isBlind_bind (isBlind_lift (Action.registry_isBlind registry)) fun current => ?_
    dsimp only
    split
    · exact checkPools_isBlind pools
    · exact isBlind_bind (isBlind_throw _) fun _ => checkPools_isBlind pools
  unfold checkTeardown
  split
  · exact checked
  · exact isBlind_bind (isBlind_throw _) fun _ => checked

theorem run_isBlind (config : Config) : (run config).IsBlind := by
  refine isBlind_bind (isBlind_lift Action.newRegistry_isBlind) fun registry => ?_
  refine isBlind_bind (Reference.register_isBlind registry _) fun _ => ?_
  refine isBlind_bind (makePools_isBlind registry _) fun pools => ?_
  refine isBlind_bind (isBlind_lift Action.newShelf_isBlind) fun shelf => ?_
  refine isBlind_lift_bind (Builder.new_isBlind registry _) fun world => ?_
  have stubs : (Session.new sessionId (.standard shelf)).stubs.IsBlind :=
    StubCatalog.standard_isBlind shelf
  have blind := (Builder.isBlind_of_new stubs registry world).withConfig config
  refine isBlind_bind blind.start fun scope => ?_
  refine isBlind_bind (isBlind_lift (Action.registry_isBlind registry)) fun during => ?_
  refine isBlind_bind (isBlind_observe (exercise_isBlind registry pools)) fun exercised => ?_
  refine isBlind_bind (isBlind_lift scope.close_isBlind) fun report => ?_
  refine isBlind_bind (isBlind_ofExcept exercised) fun counts => ?_
  refine isBlind_bind (checkTeardown_isBlind registry pools report) fun _ => ?_
  exact isBlind_bind (isBlind_lift (Action.emit_isBlind _)) fun _ => isBlind_pure _

end SelfCheck

end TransportSeams
