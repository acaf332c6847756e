import HostBridge.Host.Dispatch
import HostBridge.Proofs.Host.Values

/-!
# Calls of host functions

A call of a host function goes through stages, each of which can fail: the arguments are decoded
and their types compared (`Accepts`), the function runs, its results are compared and encoded
(`Delivers`). `Fails` lists what is said about the first stage to fail. `dispatch_exact` says that
this is all there is to a call, whatever the function does, and that the function is called once or
not at all.
-/

namespace HostBridge.Binding

/-! ## Stages -/

/-- The arguments are in order: they decode to these values, which are of the declared types. -/
structure Accepts (binding : Binding) (arguments : List UInt8) (values : List Value) : Prop where
  decoded : Value.decodeList arguments = .ok values
  types_eq : values.map Value.type = binding.params

/-- The call ended with these results, of the declared types and not too many of them. -/
structure Delivers (binding : Binding) (outcome : CallOutcome) (results : List Value) : Prop where
  returned : outcome = .returned results
  types_eq : results.map Value.type = binding.returns
  length_le : results.length ≤ 255

/-- What is said about the first stage that fails, where `outcome` tells how the function ends. -/
inductive Fails (binding : Binding) (outcome : List Value → CallOutcome)
    (arguments : List UInt8) : String → Prop where
  | undecoded {error : DecodeError} :
    Value.decodeList arguments = .error error →
    Fails binding outcome arguments ("invalid arguments: " ++ error.message)
  | argumentTypes {values : List Value} :
    Value.decodeList arguments = .ok values → values.map Value.type ≠ binding.params →
    Fails binding outcome arguments ("argument type mismatch; expected: "
      ++ ValueType.labels binding.params ++ ", given: " ++ ValueType.labels (values.map Value.type))
  | panicked {values : List Value} {text : String} :
    binding.Accepts arguments values → outcome values = .panicked (.text text) →
    Fails binding outcome arguments ("host function panicked: " ++ text)
  | panickedOtherwise {values : List Value} :
    binding.Accepts arguments values → outcome values = .panicked .other →
    Fails binding outcome arguments "host function panicked: unknown panic"
  | failed {values : List Value} {reason : String} :
    binding.Accepts arguments values → outcome values = .failed reason →
    Fails binding outcome arguments reason
  | resultTypes {values results : List Value} :
    binding.Accepts arguments values → outcome values = .returned results →
    results.map Value.type ≠ binding.returns →
    Fails binding outcome arguments ("result type mismatch; expected: "
      ++ ValueType.labels binding.returns ++ ", given: "
      ++ ValueType.labels (results.map Value.type))
  | tooMany {values results : List Value} :
    binding.Accepts arguments values → outcome values = .returned results →
    results.map Value.type = binding.returns → 255 < results.length →
    Fails binding outcome arguments
      ("invalid results: " ++ (EncodeError.tooManyValues results.length 255).message)

/-- What a call is answered with. -/
def answer (binding : Binding) (outcome : List Value → CallOutcome) (arguments : List UInt8) :
    Except Trap (List UInt8) :=
  binding.readArguments arguments >>= fun values => binding.writeOutcome (outcome values)

section stages

variable {binding : Binding} {outcome : List Value → CallOutcome} {arguments bytes : List UInt8}
  {values results : List Value} {message : String} {trap : Trap}

/-- Arguments that do not decode are refused with the reason. -/
theorem readArguments_of_error {error : DecodeError}
    (h : Value.decodeList arguments = .error error) :
    binding.readArguments arguments = .error (.badArguments error) := by
  unfold readArguments
  rw [h]
  rfl

/-- Arguments that decode are accepted exactly if their types are the declared ones. -/
theorem readArguments_of_ok (h : Value.decodeList arguments = .ok values) :
    binding.readArguments arguments =
      if values.map Value.type ≠ binding.params then
        .error (.argumentTypes binding.params (values.map Value.type))
      else .ok values := by
  unfold readArguments
  rw [h]
  change (if _ then _ else _) = _
  split <;> rfl

/-- Arguments that a binding accepts are passed on. -/
theorem readArguments_of_accepts (h : binding.Accepts arguments values) :
    binding.readArguments arguments = .ok values := by
  rw [readArguments_of_ok h.decoded, if_neg (not_not_intro h.types_eq)]

/-- Results of the declared types are written, if there is room for them. -/
theorem writeOutcome_returned (htypes : results.map Value.type = binding.returns) :
    binding.writeOutcome (.returned results) =
      (Value.encodeList results).mapError .badResults :=
  if_neg (not_not_intro htypes)

/-- A call that delivers is written, and its bytes hold the results. -/
theorem writeOutcome_of_delivers {ending : CallOutcome} (h : binding.Delivers ending results) :
    ∃ bytes, binding.writeOutcome ending = .ok bytes ∧ Value.decodeList bytes = .ok results := by
  obtain ⟨rfl, htypes, hlength⟩ := h
  have hencode := Value.encodeList_eq_ok_iff.2 ⟨hlength, rfl⟩
  refine ⟨_, ?_, Value.decodeList_eq_ok_iff.2 hencode⟩
  rw [writeOutcome_returned htypes, hencode]
  rfl

/-- Behind arguments that are accepted, the answer is what the call comes to. -/
theorem answer_of_accepts (h : binding.Accepts arguments values) :
    binding.answer outcome arguments = binding.writeOutcome (outcome values) := by
  rw [answer, readArguments_of_accepts h]
  rfl

/-- A call that fails at a stage is answered by a trap that says so. -/
theorem answer_of_fails (h : binding.Fails outcome arguments message) :
    ∃ trap, binding.answer outcome arguments = .error trap ∧ trap.message = message := by
  cases h with
  | undecoded hdecode =>
    exact ⟨.badArguments _, by rw [answer, readArguments_of_error hdecode]; rfl, rfl⟩
  | argumentTypes hdecode htypes =>
    exact ⟨.argumentTypes _ _,
      by rw [answer, readArguments_of_ok hdecode, if_pos htypes]; rfl, rfl⟩
  | panicked haccepts hending =>
    exact ⟨.panicked _, by rw [answer_of_accepts haccepts, hending]; rfl, rfl⟩
  | panickedOtherwise haccepts hending =>
    exact ⟨.panicked _, by rw [answer_of_accepts haccepts, hending]; rfl, rfl⟩
  | failed haccepts hending =>
    exact ⟨.failed _, by rw [answer_of_accepts haccepts, hending]; rfl, rfl⟩
  | resultTypes haccepts hending htypes =>
    refine ⟨.resultTypes _ _, ?_, rfl⟩
    rw [answer_of_accepts haccepts, hending]
    exact if_pos htypes
  | tooMany haccepts hending htypes hcount =>
    refine ⟨.badResults _, ?_, rfl⟩
    rw [answer_of_accepts haccepts, hending, writeOutcome_returned htypes,
      Value.encodeList_of_lt hcount]
    rfl

/-- A call delivers results, or some stage of it is the first to fail. -/
theorem delivers_or_fails (binding : Binding) (outcome : List Value → CallOutcome)
    (arguments : List UInt8) :
    (∃ values results, binding.Accepts arguments values ∧
      binding.Delivers (outcome values) results) ∨
    ∃ message, binding.Fails outcome arguments message := by
  cases hdecode : Value.decodeList arguments with
  | error error => exact .inr ⟨_, .undecoded hdecode⟩
  | ok values =>
  by_cases htypes : values.map Value.type = binding.params
  case neg => exact .inr ⟨_, .argumentTypes hdecode htypes⟩
  have haccepts : binding.Accepts arguments values := ⟨hdecode, htypes⟩
  cases hending : outcome values with
  | panicked payload =>
    cases payload with
    | text text => exact .inr ⟨_, .panicked haccepts hending⟩
    | other => exact .inr ⟨_, .panickedOtherwise haccepts hending⟩
  | failed reason => exact .inr ⟨_, .failed haccepts hending⟩
  | returned results =>
    by_cases hresults : results.map Value.type = binding.returns
    · by_cases hcount : results.length ≤ 255
      · exact .inl ⟨values, results, haccepts, ⟨hending, hresults, hcount⟩⟩
      · exact .inr ⟨_, .tooMany haccepts hending hresults (Nat.lt_of_not_le hcount)⟩
    · exact .inr ⟨_, .resultTypes haccepts hending hresults⟩

/-- A call that delivers results is answered with bytes that hold them. -/
theorem answer_of_delivers (haccepts : binding.Accepts arguments values)
    (h : binding.Delivers (outcome values) results) :
    ∃ bytes, binding.answer outcome arguments = .ok bytes ∧
      Value.decodeList bytes = .ok results := by
  rw [answer_of_accepts haccepts]
  exact writeOutcome_of_delivers h

/-- The bytes that a call is answered with are those of the results that it delivers. -/
theorem answer_eq_ok_iff : binding.answer outcome arguments = .ok bytes ↔
    ∃ values results, binding.Accepts arguments values ∧
      binding.Delivers (outcome values) results ∧ Value.decodeList bytes = .ok results := by
  constructor
  · intro hanswer
    obtain ⟨values, results, haccepts, hdelivers⟩ | ⟨message, hfails⟩ :=
      binding.delivers_or_fails outcome arguments
    · obtain ⟨bytes', hbytes, hdecode⟩ := answer_of_delivers haccepts hdelivers
      rw [hanswer] at hbytes
      cases hbytes
      exact ⟨values, results, haccepts, hdelivers, hdecode⟩
    · obtain ⟨trap, htrap, -⟩ := answer_of_fails hfails
      rw [hanswer] at htrap
      cases htrap
  · rintro ⟨values, results, haccepts, hdelivers, hdecode⟩
    obtain ⟨bytes', hbytes, hdecode'⟩ := answer_of_delivers haccepts hdelivers
    -- results have one wire form
    rw [Value.decodeList_eq_ok_iff] at hdecode hdecode'
    rw [hdecode] at hdecode'
    cases hdecode'
    exact hbytes

/-- A call is answered by a trap exactly if a stage fails. -/
theorem answer_eq_error_iff :
    (∃ trap, binding.answer outcome arguments = .error trap ∧ trap.message = message) ↔
      binding.Fails outcome arguments message := by
  refine ⟨?_, answer_of_fails⟩
  rintro ⟨trap, htrap, rfl⟩
  obtain ⟨values, results, haccepts, hdelivers⟩ | ⟨message, hfails⟩ :=
    binding.delivers_or_fails outcome arguments
  · obtain ⟨bytes, hbytes, -⟩ := answer_of_delivers haccepts hdelivers
    rw [hbytes] at htrap
    cases htrap
  · obtain ⟨trap', htrap', hmessage⟩ := answer_of_fails hfails
    rw [htrap'] at htrap
    cases htrap
    exact hmessage ▸ hfails

end stages

/-! ## Dispatch -/

/-- A call of a binding, over any means to call its function. -/
def dispatchBy {m : Type → Type} [Monad m] (binding : Binding) (arguments : List UInt8)
    (call : List Value → m CallOutcome) : m (Except Trap (List UInt8)) :=
  match binding.readArguments arguments with
  | .error trap => pure (.error trap)
  | .ok values => do return binding.writeOutcome (← call values)

/-- How a function ends that is called with the table of functions as it is. -/
def ending (function : HostFunction) (functions : Registry) (values : List Value) : CallOutcome :=
  ((function values).run functions).1

/-- Calls a function, and notes what it was called with. -/
def noted (function : HostFunction) (values : List Value) :
    StateM (Registry × List (List Value)) CallOutcome := fun (functions, calls) =>
  let (outcome, after) := (function values).run functions
  (outcome, after, calls ++ [values])

/-- A call goes as it should. It is answered with the results that the function delivers, or with
what is said about the first stage that fails; and the function is called once, with the decoded
arguments, or not at all. -/
structure Exact (binding : Binding) (function : HostFunction) (functions : Registry)
    (arguments : List UInt8) (answer : Except Trap (List UInt8)) (after : Registry) : Prop where
  isOk_iff : (∃ bytes, answer = .ok bytes) ↔
    ∃ values results, binding.Accepts arguments values ∧
      binding.Delivers (ending function functions values) results
  ok_iff : ∀ bytes, answer = .ok bytes ↔
    ∃ values results, binding.Accepts arguments values ∧
      binding.Delivers (ending function functions values) results ∧
      Value.decodeList bytes = .ok results
  error_iff : ∀ message, (∃ trap, answer = .error trap ∧ trap.message = message) ↔
    binding.Fails (ending function functions) arguments message
  /-- The calls of the function, on a run that notes them. -/
  calls : ∃ calls : List (List Value),
    binding.dispatchBy arguments (noted function) (functions, []) = (answer, after, calls) ∧
    (∀ values, calls = [values] ↔ binding.Accepts arguments values) ∧
    (calls = [] ↔ ∀ values, ¬ binding.Accepts arguments values)

section dispatch

variable {binding : Binding} {function : HostFunction} {functions : Registry}
  {arguments : List UInt8} {values : List Value}

/-- A call is dispatched over the table of functions. -/
theorem dispatch_eq_dispatchBy (hlookup : functions.lookup binding.index = some function)
    (arguments : List UInt8) : binding.dispatch functions arguments =
      .ok (binding.dispatchBy (m := StateM Registry) arguments
        (fun values => (function values).run) functions) := by
  simp only [dispatch, hlookup, dispatchBy]
  cases binding.readArguments arguments with
  | error trap => rfl
  | ok values => rfl

/-- A binding accepts the arguments that it reads. -/
theorem accepts_iff : binding.Accepts arguments values ↔
    binding.readArguments arguments = .ok values := by
  refine ⟨readArguments_of_accepts, fun h => ?_⟩
  cases hdecode : Value.decodeList arguments with
  | error error =>
    rw [readArguments_of_error hdecode] at h
    cases h
  | ok values' =>
    rw [readArguments_of_ok hdecode] at h
    split at h <;> cases h
    · next htypes => exact ⟨hdecode, Decidable.not_not.1 htypes⟩

/-- A registered function is called as it should be. -/
theorem exists_exact (hlookup : functions.lookup binding.index = some function)
    (arguments : List UInt8) :
    ∃ answer after, binding.dispatch functions arguments = .ok (answer, after) ∧
      binding.Exact function functions arguments answer after := by
  obtain ⟨after, calls, hdispatch, hnoted, honce, hnever⟩ : ∃ after calls,
      binding.dispatch functions arguments =
        .ok (binding.answer (ending function functions) arguments, after) ∧
      binding.dispatchBy arguments (noted function) (functions, []) =
        (binding.answer (ending function functions) arguments, after, calls) ∧
      (∀ values, calls = [values] ↔ binding.Accepts arguments values) ∧
      (calls = [] ↔ ∀ values, ¬ binding.Accepts arguments values) := by
    rw [dispatch_eq_dispatchBy hlookup]
    unfold dispatchBy answer
    simp only [accepts_iff]
    cases binding.readArguments arguments with
    | error trap => exact ⟨functions, [], rfl, rfl, by simp, by simp⟩
    | ok values =>
      exact ⟨((function values).run functions).2, [values], rfl, rfl, by simp, by simp⟩
  refine ⟨_, after, hdispatch, ⟨?_, ?_, ?_, calls, hnoted, honce, hnever⟩⟩
  · constructor
    · rintro ⟨bytes, hanswer⟩
      obtain ⟨values, results, haccepts, hdelivers, -⟩ := answer_eq_ok_iff.1 hanswer
      exact ⟨values, results, haccepts, hdelivers⟩
    · rintro ⟨values, results, haccepts, hdelivers⟩
      obtain ⟨bytes, hanswer, -⟩ := answer_of_delivers haccepts hdelivers
      exact ⟨bytes, hanswer⟩
  · exact fun bytes => answer_eq_ok_iff
  · exact fun message => answer_eq_error_iff

end dispatch

end HostBridge.Binding
