import PromptContract.Libraries.Usual
import PromptContract.Proofs.Prediction.Unrejected
import PromptContract.Proofs.Prompt.Rendered

/-!
# One call, and only a sound one

When is a model asked (`predict`, `predict_stream`)? `Sound` lists what must be in order: the
contract, the options, the input values and the prompt that is made of them, a transport, and the
parameters of the model; a streamed call needs a window and settings besides (`SoundStream`).
`calls_once` says that a call that is in order is made, once and with one message, that any other
fails with its transport untouched, and that maps are rejected only where checks are asked for. What
the libraries find in maps and make of clients does not matter to it. It is proved by going through
the stages of a call in their order (`_prepare`): all that can fail comes before the transport
(`prepare_eq`), and none of it rejects a map but the check of the inputs (`validates_of_prepare`).
-/

namespace PromptContract

/-! ## The shared settings -/

/-- The shared settings are read once. -/
theorem Context.settings_settings (c : Context) : c.settings.2.settings = c.settings := by
  obtain ⟨env, shared⟩ := c
  cases shared with
  | some s => rfl
  | none =>
    unfold Context.settings
    cases hread : Settings.ofEnvironment env with
    | error e => simp only [hread]
    | ok s => rfl

/-- Resolving options may read the shared settings, but leaves them as they are. -/
theorem Options.settings_resolve (c : Context) (v : Value) :
    (Options.resolve c v none).2.settings = c.settings := by
  have hread := c.settings_settings
  unfold resolve Context.settingsOr
  split
  · rfl
  · revert hread
    rcases c.settings with ⟨_ | s, c'⟩ <;> exact id

/-- Nor does it change how far values can be written. -/
theorem Options.reach_resolve (c : Context) (v : Value) :
    (Options.resolve c v none).2.reach = c.reach := by
  have hreach := c.reach_settings
  unfold resolve Context.settingsOr
  split
  · rfl
  · revert hreach
    rcases c.settings with ⟨_ | s, c'⟩ <;> exact id

namespace Routing

/-- So does making a client. -/
theorem settings_client (sdk : Sdk) (c : Context) (model key : Value) :
    (client sdk c model key none).2.settings = c.settings := by
  have hread := c.settings_settings
  unfold client Context.settingsOr
  revert hread
  rcases c.settings with ⟨_ | s, c'⟩ <;> exact id

/-- The client is the same where the shared settings are. -/
theorem client_congr {c c' : Context} (h : c'.settings = c.settings) (sdk : Sdk)
    (model key : Value) : client sdk c' model key none = client sdk c model key none := by
  unfold client Context.settingsOr
  rw [h]

/-- There is a key for a model: the caller's, or the one that the shared settings have for the
provider of the model. -/
def HasKey (c : Context) (model key : Value) : Prop :=
  ∃ provider, providerOfValue model = .ok provider ∧ (key.truthy = true ∨
    ∃ s own, c.settings.1 = .ok s ∧ s.keyFor provider = .ok own ∧ own.truthy = true)

/-- No client is made without a key. -/
theorem hasKey_of_client {sdk : Sdk} {c : Context} {model key : Value} {made : Client}
    (h : (client sdk c model key none).1 = .ok made) : HasKey c model key := by
  have hclient : (client sdk c model key none).1 = (do
      let s ← c.settings.1
      clientUnder sdk c.settings.2 s model key) := by
    unfold client Context.settingsOr
    rcases c.settings with ⟨_ | s, c'⟩ <;> rfl
  rw [hclient] at h
  obtain ⟨s, hsettings, h⟩ := exists_of_bind_eq_ok h
  obtain ⟨provider, hprovider, h⟩ := exists_of_bind_eq_ok h
  refine ⟨provider, hprovider, ?_⟩
  -- Without a key in the call there is one for the provider in the settings.
  by_cases hkey : key.truthy = true
  · exact .inl hkey
  · simp only [if_neg hkey] at h
    obtain ⟨own, hown, h⟩ := exists_of_bind_eq_ok h
    refine .inr ⟨s, own, hsettings, hown, ?_⟩
    by_contra hnone
    simp only [Bool.not_eq_true] at hnone
    rw [hnone] at h
    cases h

end Routing

/-- A negative number of milliseconds is refused as a window, with its name if it has one. -/
theorem Window.exactly_of_negative {n : Int} (hneg : n < 0)
    (hnamed : (Value.int n).isWritable = true) :
    Window.exactly (.int n) = .error (.windowNegative (.int n)) := by
  unfold exactly milliseconds refusal
  rw [Value.isBelow_int, decide_eq_true hneg, hnamed]
  rfl

namespace Prediction

variable {τ : Type}

/-! ## What must be in order -/

/-- The prompt of a call, if everything that it is made of is in order and it can be written. -/
def promptOf (libs : Libraries) (c : Context) (contract inputs options : Value) :
    Except Failure (List Char) := do
  let contract ← Contract.ofValue contract
  let values ← inputsOf libs contract (← (Options.resolve c options none).1) inputs
  Prompt.written c.reach contract values

/-- A prompt is rendered from the contract and the input values, which are as they come out of their
check if the options ask for one, and else as they were given. -/
def Renders (libs : Libraries) (c : Context) (contract inputs options : Value)
    (prompt : List Char) : Prop :=
  ∃ k o before values, Contract.ofValue contract = .ok k ∧
    (Options.resolve c options none).1 = .ok o ∧ inputs.entries = .ok before ∧
    (if o.validate.truthy then
      ∃ checked, Validation.check libs.checker k .input (.map before) = .ok checked ∧
        checked.entries = .ok values
    else values = before) ∧
    Prompt.renderedFrom c.reach k (.map values) = .ok prompt

/-- What is settled before a transport comes into play is in order, and so is the transport. -/
structure Prepares (libs : Libraries) (c : Context) (contract inputs options : Value)
    (given : Option τ) (connect : Client → τ) (p : Prepared τ) : Prop where
  contract_eq : Contract.ofValue contract = .ok p.contract
  options_eq : (Options.resolve c options none).1 = .ok p.options
  /-- The input values pass their check if there is one, the prompt can be written, and it is the
  only message. -/
  messages_eq : ∃ prompt, promptOf libs c contract inputs options = .ok prompt ∧
    p.messages = [.user (String.ofList prompt)]
  /-- The transport is the caller's, or that of a client that can be made. -/
  transport_eq : (transportFor libs c p.options given connect).1 = .ok p.transport
  /-- No client can be made without a key. -/
  key : given = none → Routing.HasKey c p.options.model p.options.apiKey

/-- A call is in order: it can be prepared, and the parameters of the model can be read. -/
structure Sound (libs : Libraries) (c : Context) (contract inputs options : Value)
    (given : Option τ) (connect : Client → τ) (p : Prepared τ) (g : Generation) : Prop
    extends Prepares libs c contract inputs options given connect p where
  generation_eq : Generation.ofOptions p.options.providerOptions = .ok g

/-- A streamed call is in order: its window is a span of time besides, and the settings have one for
the pieces that may wait. -/
structure SoundStream (libs : Libraries) (c : Context) (contract inputs options : Value)
    (given : Option τ) (connect : Client → τ) (p : Prepared τ) (g : Generation) (window : Span)
    (queueSize : Value) : Prop
    extends Sound libs c contract inputs options given connect p g where
  window_eq : Window.exactly p.options.debounceMs = .ok window
  queueSize_eq : ∃ s streaming, c.settings.1 = .ok s ∧ s.streamingPart = .ok streaming ∧
    queueSize = streaming.queueSize

/-- The options of a call ask for checks. -/
def Validates (c : Context) (options : Value) : Prop :=
  ∃ o, (Options.resolve c options none).1 = .ok o ∧ o.validate.truthy = true

variable {libs : Libraries} {c : Context} {contract inputs options : Value} {given : Option τ}
  {connect : Client → τ}

/-! ## The stages before a call -/

/-- Where the inputs are taken, what is left of the prompt is to write it. -/
theorem promptOf_eq {k : Contract} {o : Options} {values : Entries}
    (hcontract : Contract.ofValue contract = .ok k)
    (hoptions : (Options.resolve c options none).1 = .ok o)
    (hinputs : inputsOf libs k o inputs = .ok values) :
    promptOf libs c contract inputs options = Prompt.written c.reach k values := by
  unfold promptOf
  rw [hcontract, hoptions, ok_bind, ok_bind, hinputs, ok_bind]

/-- A transport is found under the shared settings, and leaves them as they are. -/
theorem transportFor_congr {c' : Context} (h : c'.settings = c.settings) (libs : Libraries)
    (o : Options) (given : Option τ) (connect : Client → τ) :
    (transportFor libs c' o given connect).1 = (transportFor libs c o given connect).1 ∧
      (transportFor libs c' o given connect).2.settings = c.settings := by
  cases given with
  | some transport => exact ⟨rfl, h⟩
  | none =>
    have hclient := Routing.client_congr h libs.sdk o.model o.apiKey
    have hsettings := Routing.settings_client libs.sdk c o.model o.apiKey
    unfold transportFor
    rw [hclient]
    exact ⟨rfl, hsettings⟩

/-- A call is prepared stage by stage, under the shared settings, which stay as they are. -/
theorem prepare_eq (libs : Libraries) (c : Context) (contract inputs options : Value)
    (given : Option τ) (connect : Client → τ) :
    (prepare libs c contract inputs options given connect).1 = (do
      let k ← Contract.ofValue contract
      let o ← (Options.resolve c options none).1
      let values ← inputsOf libs k o inputs
      let messages ← messagesOf c.reach k values
      let transport ← (transportFor libs c o given connect).1
      return ⟨k, o, messages, transport⟩) ∧
    (prepare libs c contract inputs options given connect).2.settings = c.settings := by
  have hresolve := Options.settings_resolve c options
  have hreach := Options.reach_resolve c options
  unfold prepare
  cases Contract.ofValue contract with
  | error e => exact ⟨rfl, rfl⟩
  | ok k =>
    revert hresolve hreach
    rcases Options.resolve c options none with ⟨_ | o, c'⟩
    · exact fun hresolve _ => ⟨rfl, hresolve⟩
    · intro hresolve hreach
      -- From here on the settings may have been read, which makes no difference to a client.
      obtain ⟨htransport, hsettings⟩ := transportFor_congr hresolve libs o given connect
      simp only [ok_bind] at hreach hsettings ⊢
      rw [← htransport, ← hreach]
      cases inputsOf libs k o inputs with
      | error e => exact ⟨rfl, hresolve⟩
      | ok values =>
        simp only [ok_bind]
        cases messagesOf c'.reach k values with
        | error e => exact ⟨rfl, hresolve⟩
        | ok messages =>
          refine ⟨?_, hsettings⟩
          simp only [ok_bind]
          cases (transportFor libs c' o given connect).1 <;> rfl

/-- A call is prepared where everything is in order, and only there. -/
theorem prepare_eq_ok_iff {p : Prepared τ} :
    (prepare libs c contract inputs options given connect).1 = .ok p ↔
      Prepares libs c contract inputs options given connect p := by
  rw [(prepare_eq libs c contract inputs options given connect).1]
  constructor
  · intro h
    -- Each stage has given what the call was prepared with.
    obtain ⟨k, hcontract, h⟩ := exists_of_bind_eq_ok h
    obtain ⟨o, hoptions, h⟩ := exists_of_bind_eq_ok h
    obtain ⟨values, hvalues, h⟩ := exists_of_bind_eq_ok h
    obtain ⟨messages, hmessages, h⟩ := exists_of_bind_eq_ok h
    obtain ⟨transport, htransport, h⟩ := exists_of_bind_eq_ok h
    obtain rfl := Except.ok.inj h
    refine ⟨hcontract, hoptions, ?_, htransport, ?_⟩
    · obtain ⟨prompt, hprompt, hmessages⟩ := exists_of_bind_eq_ok hmessages
      exact ⟨prompt, (promptOf_eq hcontract hoptions hvalues).trans hprompt,
        (Except.ok.inj hmessages).symm⟩
    · rintro rfl
      -- A client that was made for the call has a key.
      obtain ⟨made, hclient, -⟩ := exists_of_map_eq_ok htransport
      exact Routing.hasKey_of_client hclient
  · rintro ⟨hcontract, hoptions, ⟨prompt, hprompt, hmessages⟩, htransport, -⟩
    -- The prompt that is written comes from inputs that were taken and is the one message.
    unfold promptOf at hprompt
    rw [hcontract, hoptions, ok_bind, ok_bind] at hprompt ⊢
    obtain ⟨values, hvalues, hprompt⟩ := exists_of_bind_eq_ok hprompt
    have hmade : messagesOf c.reach p.contract values = .ok p.messages := by
      unfold messagesOf
      rw [hprompt, hmessages, ok_bind]
      rfl
    rw [hvalues, ok_bind, hmade, ok_bind, htransport, ok_bind]
    rfl

/-- Before a call only the check of the inputs rejects a map. -/
theorem validates_of_prepare {r : Rejection}
    (h : (prepare libs c contract inputs options given connect).1 = .error (.rejected r)) :
    Validates c options := by
  rw [(prepare_eq libs c contract inputs options given connect).1] at h
  rcases error_of_bind_eq_error h with h | ⟨k, -, h⟩
  · exact absurd h (Contract.unrejected_ofValue contract r)
  rcases error_of_bind_eq_error h with h | ⟨o, hoptions, h⟩
  · exact absurd h (Options.unrejected_resolve c options r)
  refine ⟨o, hoptions, ?_⟩
  -- If checks are not asked for, none of the later stages rejects a map.
  by_contra hoff
  have hinputs : Unrejected (inputsOf libs k o inputs) := by
    refine (Value.unrejected_entries inputs).bind fun values => ?_
    rw [if_neg hoff]
    exact .pure values
  have hmessages (values : Entries) : Unrejected (messagesOf c.reach k values) :=
    (Prompt.unrejected_written c.reach k values).bind fun _ => .pure _
  have htransport : Unrejected (transportFor libs c o given connect).1 := by
    cases given with
    | some transport => exact .ok transport
    | none => exact (Routing.unrejected_client libs.sdk c o.model o.apiKey).map connect
  exact (hinputs.bind fun values => (hmessages values).bind fun _ =>
    htransport.bind fun _ => .pure _) r h

/-- A call is in order in one way at most. -/
theorem Sound.unique {p p' : Prepared τ} {g g' : Generation}
    (h : Sound libs c contract inputs options given connect p g)
    (h' : Sound libs c contract inputs options given connect p' g') : p = p' ∧ g = g' := by
  have hprepare := prepare_eq_ok_iff.mpr h.toPrepares
  obtain rfl : p = p' :=
    Except.ok.inj (hprepare.symm.trans (prepare_eq_ok_iff.mpr h'.toPrepares))
  exact ⟨rfl, Except.ok.inj (h.generation_eq.symm.trans h'.generation_eq)⟩

/-- A call that cannot be prepared is not in order, and its failure is a rejection only if checks
are asked for. -/
theorem unsound_of_prepare {why : Failure} {c' : Context}
    (h : prepare libs c contract inputs options given connect = (.error why, c')) :
    (∀ p g, ¬Sound libs c contract inputs options given connect p g) ∧
      ∀ r, why = .rejected r → Validates c options := by
  refine ⟨fun p g hsound => ?_, fun r hr => ?_⟩
  · have hprepare := prepare_eq_ok_iff.mpr hsound.toPrepares
    rw [h] at hprepare
    cases hprepare
  · exact validates_of_prepare ((congrArg Prod.fst h).trans (congrArg _ hr))

/-- Nor is a prepared call in order for which something else cannot be read. -/
theorem unsound_of_generation {p : Prepared τ} {c' : Context}
    (h : prepare libs c contract inputs options given connect = (.ok p, c')) {why : Failure}
    (hgeneration : Generation.ofOptions p.options.providerOptions = .error why) :
    (∀ p g, ¬Sound libs c contract inputs options given connect p g) ∧ ∀ r, why ≠ .rejected r := by
  refine ⟨fun p' g hsound => ?_, fun r hr => ?_⟩
  · have hprepare := prepare_eq_ok_iff.mpr hsound.toPrepares
    rw [h] at hprepare
    obtain rfl := Except.ok.inj hprepare
    cases hgeneration.symm.trans hsound.generation_eq
  · exact Generation.unrejected_ofOptions _ r (hr ▸ hgeneration)

/-- So is a streamed call. -/
theorem SoundStream.unique {p p' : Prepared τ} {g g' : Generation} {window window' : Span}
    {queueSize queueSize' : Value}
    (h : SoundStream libs c contract inputs options given connect p g window queueSize)
    (h' : SoundStream libs c contract inputs options given connect p' g' window' queueSize') :
    p = p' ∧ g = g' ∧ window = window' ∧ queueSize = queueSize' := by
  obtain ⟨rfl, rfl⟩ := h.toSound.unique h'.toSound
  obtain ⟨s, streaming, hsettings, hstreaming, rfl⟩ := h.queueSize_eq
  obtain ⟨s', streaming', hsettings', hstreaming', rfl⟩ := h'.queueSize_eq
  obtain rfl := Except.ok.inj (hsettings.symm.trans hsettings')
  obtain rfl := Except.ok.inj (hstreaming.symm.trans hstreaming')
  exact ⟨rfl, rfl, Except.ok.inj (h.window_eq.symm.trans h'.window_eq), rfl⟩

/-- Where checks are not asked for, the output map of a reply is not rejected. -/
theorem unrejected_checkOutputs {p : Prepared τ} (hoff : ¬p.options.validate.truthy = true)
    (m : Reply.Outputs) : Unrejected (checkOutputs libs p m) := by
  unfold checkOutputs
  rw [if_neg hoff]
  exact .pure _

/-! ## Whole replies -/

variable {σ : Type}

/-- A call for a whole reply is in order and made once, or it is not and fails without a change to
its transport. -/
theorem once_cases (libs : Libraries) (c : Context) (contract inputs options : Value)
    (given : Option (Transport σ)) (connect : Client → Transport σ) (s : σ) :
    let outcome := once libs c contract inputs options given connect s
    (∃ p g, Sound libs c contract inputs options given connect p g ∧
      outcome.state = (p.transport ⟨p.messages, g⟩ s).2 ∧
      outcome.result = (p.transport ⟨p.messages, g⟩ s).1.bind (conclude libs p)) ∨
    (∀ p g, ¬Sound libs c contract inputs options given connect p g) ∧
      ∃ why, outcome.result = .error why ∧ outcome.state = s ∧
        ∀ r, why = .rejected r → Validates c options := by
  unfold once
  intro outcome
  rcases hprepare : prepare libs c contract inputs options given connect with ⟨why | p, c'⟩
  · -- The call cannot be prepared.
    obtain ⟨hunsound, hrejected⟩ := unsound_of_prepare hprepare
    have houtcome : outcome = ⟨.error why, s, c'⟩ := by simp only [outcome, hprepare]
    exact .inr ⟨hunsound, why, by rw [houtcome], by rw [houtcome], hrejected⟩
  · cases hgeneration : Generation.ofOptions p.options.providerOptions with
    | error why =>
      -- The parameters of the model cannot be read.
      obtain ⟨hunsound, hrejected⟩ := unsound_of_generation hprepare hgeneration
      have houtcome : outcome = ⟨.error why, s, c'⟩ := by
        simp only [outcome, hprepare, hgeneration]
      exact .inr ⟨hunsound, why, by rw [houtcome], by rw [houtcome],
        fun r hr => absurd hr (hrejected r)⟩
    | ok g =>
      -- Everything is in order, and the one call is made.
      have hsound : Sound libs c contract inputs options given connect p g :=
        ⟨prepare_eq_ok_iff.mp (congrArg Prod.fst hprepare), hgeneration⟩
      have houtcome : outcome = ⟨(p.transport ⟨p.messages, g⟩ s).1.bind (conclude libs p),
          (p.transport ⟨p.messages, g⟩ s).2, c'⟩ := by
        simp only [outcome, hprepare, hgeneration]
      exact .inl ⟨p, g, hsound, by rw [houtcome], by rw [houtcome]⟩

/-- So what comes of a call that is in order is what comes of the one call that is made. -/
theorem once_of_sound {given : Option (Transport σ)} {connect : Client → Transport σ}
    {p : Prepared (Transport σ)} {g : Generation}
    (h : Sound libs c contract inputs options given connect p g) (s : σ) :
    let outcome := once libs c contract inputs options given connect s
    outcome.state = (p.transport ⟨p.messages, g⟩ s).2 ∧
      outcome.result = (p.transport ⟨p.messages, g⟩ s).1.bind (conclude libs p) := by
  rcases once_cases libs c contract inputs options given connect s with
    ⟨p', g', hsound, hcame⟩ | ⟨hunsound, -⟩
  · obtain ⟨rfl, rfl⟩ := h.unique hsound
    exact hcame
  · exact absurd h (hunsound p g)

/-- A whole reply is rejected only if checks are asked for, or if the transport fails so. -/
theorem rejected_conclude {p : Prepared (Transport σ)}
    (hoptions : (Options.resolve c options none).1 = .ok p.options)
    {reply : Except Failure (List Char)} {r : Rejection}
    (h : reply.bind (conclude libs p) = .error (.rejected r)) :
    Validates c options ∨ reply = .error (.rejected r) := by
  by_cases hon : p.options.validate.truthy = true
  · exact .inl ⟨p.options, hoptions, hon⟩
  · right
    have hconclude (text : List Char) : Unrejected (conclude libs p text) :=
      (Reply.unrejected_parse _ _).bind (unrejected_checkOutputs hon)
    rcases error_of_bind_eq_error h with h | ⟨text, -, h⟩
    · exact h
    · exact absurd h (hconclude text r)

/-! ## Streamed replies -/

/-- What a streamed call needs besides is at hand where it is in order. -/
theorem streamParameters_eq_ok_iff {o : Options} {settings : Settings} {window : Span}
    {queueSize : Value} {g : Generation} :
    streamParameters o settings = .ok (window, queueSize, g) ↔
      Window.exactly o.debounceMs = .ok window ∧
      (∃ streaming, settings.streamingPart = .ok streaming ∧
        queueSize = streaming.queueSize) ∧
      Generation.ofOptions o.providerOptions = .ok g := by
  unfold streamParameters
  constructor
  · intro h
    obtain ⟨window', hwindow, h⟩ := exists_of_bind_eq_ok h
    obtain ⟨streaming, hstreaming, h⟩ := exists_of_bind_eq_ok h
    obtain ⟨g', hgeneration, h⟩ := exists_of_bind_eq_ok h
    obtain ⟨rfl, rfl, rfl⟩ : window' = window ∧ streaming.queueSize = queueSize ∧ g' = g := by
      simpa using Except.ok.inj h
    exact ⟨hwindow, ⟨streaming, hstreaming, rfl⟩, hgeneration⟩
  · rintro ⟨hwindow, ⟨streaming, hstreaming, rfl⟩, hgeneration⟩
    rw [hwindow, hstreaming, hgeneration]
    rfl

/-- Reading what a streamed call needs rejects nothing. -/
theorem unrejected_streamParameters (o : Options) (settings : Settings) :
    Unrejected (streamParameters o settings) :=
  (Window.unrejected_exactly _).bind fun _ => settings.unrejected_streamingPart.bind fun _ =>
    (Generation.unrejected_ofOptions _).bind fun _ => .pure _

/-- A streamed call is in order and made once, or it is not and fails without a change to its
transport. -/
theorem streamed_cases (libs : Libraries) (c : Context) (contract inputs options : Value)
    (given : Option (StreamTransport σ)) (connect : Client → StreamTransport σ)
    (wanted : Option Nat) (s : σ) :
    let outcome := streamed libs c contract inputs options given connect wanted s
    (∃ p g window queueSize,
      SoundStream libs c contract inputs options given connect p g window queueSize ∧
      outcome.state = (p.transport ⟨p.messages, g⟩ s).2 ∧ outcome.result =
        shownOf libs p window queueSize (p.transport ⟨p.messages, g⟩ s).1 wanted) ∨
    (∀ p g window queueSize,
      ¬SoundStream libs c contract inputs options given connect p g window queueSize) ∧
      ∃ why, outcome.result = .failed why ∧ outcome.state = s ∧
        ∀ r, why = .rejected r → Validates c options := by
  unfold streamed
  intro outcome
  rcases hprepare : prepare libs c contract inputs options given connect with ⟨why | p, c'⟩
  · -- The call cannot be prepared.
    obtain ⟨hunsound, hrejected⟩ := unsound_of_prepare hprepare
    have houtcome : outcome = ⟨.failed why, s, c'⟩ := by simp only [outcome, hprepare]
    exact .inr ⟨fun p g _ _ h => hunsound p g h.toSound, why, by rw [houtcome], by rw [houtcome],
      hrejected⟩
  · have hprepares := prepare_eq_ok_iff.mp (congrArg Prod.fst hprepare)
    have hcontext : c'.settings = c.settings := by
      have hcontext := (prepare_eq libs c contract inputs options given connect).2
      rwa [hprepare] at hcontext
    -- Whatever is in order is this prepared call.
    have hunique {p' g window queueSize}
        (h : SoundStream libs c contract inputs options given connect p' g window queueSize) :
        p' = p := by
      have hprepare' := prepare_eq_ok_iff.mpr h.toPrepares
      rw [hprepare] at hprepare'
      exact (Except.ok.inj hprepare').symm
    rcases hsettings : c'.settings with ⟨why | settings, c''⟩
    · -- The settings cannot be read.
      have houtcome : outcome = ⟨.failed why, s, c''⟩ := by
        simp only [outcome, hprepare, hsettings]
      have hnone : c.settings.1 = .error why := by rw [← hcontext, hsettings]
      refine .inr ⟨fun p' g window queueSize h => ?_, why, by rw [houtcome], by rw [houtcome],
        fun r hr => absurd (hr ▸ hnone) (c.unrejected_settings r)⟩
      obtain ⟨settings, -, hread, -⟩ := h.queueSize_eq
      cases hnone.symm.trans hread
    · have hsome : c.settings.1 = .ok settings := by rw [← hcontext, hsettings]
      rcases hparameters : streamParameters p.options settings with why | ⟨window, queueSize, g⟩
      · -- The window, the setting or the parameters of the model cannot be read.
        have houtcome : outcome = ⟨.failed why, s, c''⟩ := by
          simp only [outcome, hprepare, hsettings, hparameters]
        refine .inr ⟨fun p' g window queueSize h => ?_, why, by rw [houtcome], by rw [houtcome],
          fun r hr => absurd (hr ▸ hparameters) (unrejected_streamParameters _ _ r)⟩
        obtain rfl := hunique h
        obtain ⟨settings', streaming, hread, hstreaming, hsize⟩ := h.queueSize_eq
        obtain rfl := Except.ok.inj (hsome.symm.trans hread)
        cases hparameters.symm.trans (streamParameters_eq_ok_iff.mpr
          ⟨h.window_eq, ⟨streaming, hstreaming, hsize⟩, h.generation_eq⟩)
      · -- Everything is in order, and the one call is made.
        obtain ⟨hwindow, ⟨streaming, hstreaming, hsize⟩, hgeneration⟩ :=
          streamParameters_eq_ok_iff.mp hparameters
        have houtcome : outcome =
            ⟨shownOf libs p window queueSize (p.transport ⟨p.messages, g⟩ s).1 wanted,
              (p.transport ⟨p.messages, g⟩ s).2, c''⟩ := by
          simp only [outcome, hprepare, hsettings, hparameters]
        exact .inl ⟨p, g, window, queueSize, ⟨⟨hprepares, hgeneration⟩, hwindow,
          settings, streaming, hsome, hstreaming, hsize⟩, by rw [houtcome], by rw [houtcome]⟩

/-- So what comes of a streamed call that is in order is what its reply shows. -/
theorem streamed_of_sound {given : Option (StreamTransport σ)}
    {connect : Client → StreamTransport σ} {p : Prepared (StreamTransport σ)} {g : Generation}
    {window : Span} {queueSize : Value}
    (h : SoundStream libs c contract inputs options given connect p g window queueSize)
    (wanted : Option Nat) (s : σ) :
    let outcome := streamed libs c contract inputs options given connect wanted s
    outcome.state = (p.transport ⟨p.messages, g⟩ s).2 ∧ outcome.result =
      shownOf libs p window queueSize (p.transport ⟨p.messages, g⟩ s).1 wanted := by
  rcases streamed_cases libs c contract inputs options given connect wanted s with
    ⟨p', g', window', queueSize', hsound, hcame⟩ | ⟨hunsound, -⟩
  · obtain ⟨rfl, rfl, rfl, rfl⟩ := h.unique hsound
    exact hcame
  · exact absurd h (hunsound p g window queueSize)

/-- A streamed call whose window is no span of time fails as that does. -/
theorem streamed_of_window {given : Option (StreamTransport σ)}
    {connect : Client → StreamTransport σ} {p : Prepared (StreamTransport σ)} {c' c'' : Context}
    {settings : Settings} {why : Failure}
    (hprepare : prepare libs c contract inputs options given connect = (.ok p, c'))
    (hsettings : c'.settings = (.ok settings, c''))
    (hwindow : Window.exactly p.options.debounceMs = .error why) (wanted : Option Nat) (s : σ) :
    streamed libs c contract inputs options given connect wanted s = ⟨.failed why, s, c''⟩ := by
  unfold streamed
  rw [hprepare]
  simp only [hsettings, streamParameters, hwindow, error_bind]

/-- A streamed reply is rejected only if checks are asked for, or if it breaks off so. -/
theorem rejected_shownOf {p : Prepared (StreamTransport σ)}
    (hoptions : (Options.resolve c options none).1 = .ok p.options) {window : Span}
    {queueSize : Value} {reply : TimedReply} {wanted : Option Nat} {r : Rejection}
    (h : (shownOf libs p window queueSize reply wanted).result = some (.error (.rejected r))) :
    Validates c options ∨ ∃ delay, reply.failure = some (delay, .rejected r) := by
  cases hroom : roomOf queueSize with
  -- Nothing has come to the receiver, a rejection as little as anything else.
  | error why =>
    unfold shownOf at h
    rw [hroom] at h
    cases h
  | ok room =>
    rw [shownOf_of_room libs p window hroom] at h
    -- A delivery comes to its end by moves, each of which keeps what is to blame for a rejection.
    have hblames : Delivery.Blames (checkOutputs libs p) (reply.failure.map (·.2))
        (deliver libs p window room reply wanted) := by
      obtain ⟨moves, hmoves⟩ := Delivery.exists_moves (checkOutputs libs p) wanted
        (Delivery.start (reply.pieces.map (·.2)) (reply.failure.map (·.2)) room
          (Session.start p.contract.outputs window))
        (arrivals 0 (reply.pieces.map (·.1) ++ [(reply.failure.map (·.1)).getD 0]))
      unfold deliver
      simp only [hmoves]
      exact (Delivery.blames_start _ _ _ _ _).run moves
    rcases hblames.rejected r h with hfailure | ⟨m, hcheck⟩
    · obtain ⟨⟨delay, why⟩, hfailure, rfl⟩ := Option.map_eq_some_iff.mp hfailure
      exact .inr ⟨delay, hfailure⟩
    · by_cases hon : p.options.validate.truthy = true
      · exact .inl ⟨p.options, hoptions, hon⟩
      · exact absurd hcheck (unrejected_checkOutputs hon m r)

/-! ## Calls -/

/-- The prompt of a call is rendered so. -/
theorem renders_of_promptOf {prompt : List Char}
    (h : promptOf libs c contract inputs options = .ok prompt) :
    Renders libs c contract inputs options prompt := by
  obtain ⟨k, hcontract, h⟩ := exists_of_bind_eq_ok h
  obtain ⟨o, hoptions, h⟩ := exists_of_bind_eq_ok h
  obtain ⟨values, hinputs, h⟩ := exists_of_bind_eq_ok h
  obtain ⟨before, hbefore, hinputs⟩ := exists_of_bind_eq_ok hinputs
  refine ⟨k, o, before, values, hcontract, hoptions, hbefore, ?_, ?_⟩
  · by_cases hon : o.validate.truthy = true
    · rw [if_pos hon] at hinputs ⊢
      exact exists_of_bind_eq_ok hinputs
    · rw [if_neg hon] at hinputs ⊢
      exact (Except.ok.inj hinputs).symm
  · rw [Prompt.renderedFrom_map]
    exact h

/-- A call that is in order is made once: the state of the transport behind it is that behind one
call, whose only message holds the prompt of the contract with the input values. A call that is not
in order fails and leaves the state as it was. A map is rejected only where the options ask for
checks, unless the transport fails so. All this holds of calls for a whole reply and of streamed
ones, with any libraries. -/
theorem calls_once (libs : Libraries) (c : Context) (contract inputs options : Value) (s : σ) :
    (∀ (given : Option (Transport σ)) (connect : Client → Transport σ),
      let outcome := once libs c contract inputs options given connect s
      (∀ p g, Sound libs c contract inputs options given connect p g →
        outcome.state = (p.transport ⟨p.messages, g⟩ s).2 ∧
        outcome.result = (p.transport ⟨p.messages, g⟩ s).1.bind (conclude libs p)) ∧
      ((∀ p g, ¬Sound libs c contract inputs options given connect p g) →
        ∃ why, outcome.result = .error why ∧ outcome.state = s) ∧
      ∀ r, outcome.result = .error (.rejected r) → Validates c options ∨
        ∃ p g, Sound libs c contract inputs options given connect p g ∧
          (p.transport ⟨p.messages, g⟩ s).1 = .error (.rejected r)) ∧
    (∀ (given : Option (StreamTransport σ)) (connect : Client → StreamTransport σ)
        (wanted : Option Nat),
      let outcome := streamed libs c contract inputs options given connect wanted s
      (∀ p g window queueSize,
        SoundStream libs c contract inputs options given connect p g window queueSize →
        outcome.state = (p.transport ⟨p.messages, g⟩ s).2 ∧ outcome.result =
          shownOf libs p window queueSize (p.transport ⟨p.messages, g⟩ s).1 wanted) ∧
      ((∀ p g window queueSize,
        ¬SoundStream libs c contract inputs options given connect p g window queueSize) →
        ∃ why, outcome.result = .failed why ∧ outcome.state = s) ∧
      ∀ r, outcome.result.result = some (.error (.rejected r)) → Validates c options ∨
        ∃ p g window queueSize,
          SoundStream libs c contract inputs options given connect p g window queueSize ∧
          ∃ delay, (p.transport ⟨p.messages, g⟩ s).1.failure = some (delay, .rejected r)) ∧
    ∀ prompt, promptOf libs c contract inputs options = .ok prompt →
      Renders libs c contract inputs options prompt := by
  refine ⟨fun given connect => ?_, fun given connect wanted => ?_, fun _ => renders_of_promptOf⟩
  · intro outcome
    have hcalled p g (h : Sound libs c contract inputs options given connect p g) :=
      once_of_sound h s
    rcases once_cases libs c contract inputs options given connect s with
      ⟨p, g, hsound, -, hresult⟩ | ⟨-, why, hresult, hstate, hrejected⟩
    · refine ⟨hcalled, fun hnone => absurd hsound (hnone p g), fun r hr => ?_⟩
      exact (rejected_conclude hsound.options_eq (hresult.symm.trans hr)).imp_right
        fun hreply => ⟨p, g, hsound, hreply⟩
    · exact ⟨hcalled, fun _ => ⟨why, hresult, hstate⟩,
        fun r hr => .inl (hrejected r (Except.error.inj (hresult.symm.trans hr)))⟩
  · intro outcome
    have hcalled p g window queueSize
        (h : SoundStream libs c contract inputs options given connect p g window queueSize) :=
      streamed_of_sound h wanted s
    rcases streamed_cases libs c contract inputs options given connect wanted s with
      ⟨p, g, window, queueSize, hsound, -, hresult⟩ | ⟨-, why, hresult, hstate, hrejected⟩
    · refine ⟨hcalled, fun hnone => absurd hsound (hnone p g window queueSize), fun r hr => ?_⟩
      have hended := (congrArg Shown.result hresult).symm.trans hr
      exact (rejected_shownOf hsound.options_eq hended).imp_right
        fun hreply => ⟨p, g, window, queueSize, hsound, hreply⟩
    · have hended : outcome.result.result = some (.error why) := congrArg Shown.result hresult
      refine ⟨hcalled, fun _ => ⟨why, hresult, hstate⟩, fun r hr => .inl (hrejected r ?_)⟩
      exact Except.error.inj (Option.some.inj (hended.symm.trans hr))

/-- A contract that asks for one text. -/
def asking : Contract := ⟨[], [⟨.given "b", .str, .text "", .bool true, none⟩], none, none, none⟩

/-- The transport that remembers a call is called once, with the prompt. -/
theorem calls_once_recorded :
    (once (.usual default) (.ofEnvironment []) (.contract asking) (.map [])
      (.map [(.text "validate", .bool false)])
      (some (Transport.recording (.ok "[[ ## b ## ]]\nhi".toList)))
      (fun _ => Transport.recording (.ok [])) []).state =
        [⟨[.user (String.ofList (Prompt.rendered asking []))], .unset⟩] := by
  have hcalls := (calls_once (.usual default) (.ofEnvironment []) (.contract asking) (.map [])
    (.map [(.text "validate", .bool false)]) []).1
    (some (Transport.recording (.ok "[[ ## b ## ]]\nhi".toList)))
    (fun _ => Transport.recording (.ok []))
  exact (hcalls.1 ⟨asking, ⟨.text "gpt-3.5-turbo", .bool false, .int 100, .null, .map []⟩,
    [.user (String.ofList (Prompt.rendered asking []))], _⟩ .unset
    ⟨⟨rfl, rfl, ⟨_, rfl, rfl⟩, rfl, nofun⟩, rfl⟩).1

/-- A type for a field that puts 5 in the place of the value and then takes integers. -/
def updatingType : String := "value.update(a=5) or int"

/-- A checker that knows this type alone, and takes everything else. -/
def updating : Validation.Checker where
  M := StateT Entries (Except Failure)
  asked _ _ _ :=
    { entries := get
      report := get
      schemaRejects := fun _ _ => return none
      fieldRejects := fun _ spec => do
        if spec.isText updatingType then modify (Entries.put · (.text "a") (.int 5))
        return none }
  run value act := do
    let es ← value.entries
    return .map (← (act (.map es)).run es).2

/-- A contract with an input of that type. -/
def renewing : Contract :=
  { asking with
    inputs := [⟨.given "a", .str, .text "", .bool true, some (.text updatingType)⟩] }

/-- With that checker a call that is given 1 sends the prompt for 5. -/
theorem sound_updating (given : τ) (connect : Client → τ) :
    Sound ⟨updating, .usual default⟩ (.ofEnvironment []) (.contract renewing)
      (.map [(.text "a", .int 1)]) (.map []) (some given) connect
      ⟨renewing, ⟨.text "gpt-3.5-turbo", .bool true, .int 100, .null, .map []⟩,
        [.user (String.ofList (Prompt.rendered renewing [(.text "a", .int 5)]))], given⟩
      .unset := by
  have hprompt : promptOf ⟨updating, .usual default⟩ (.ofEnvironment []) (.contract renewing)
      (.map [(.text "a", .int 1)]) (.map []) =
        Prompt.written .unlimited renewing [(.text "a", .int 5)] :=
    promptOf_eq (o := ⟨.text "gpt-3.5-turbo", .bool true, .int 100, .null, .map []⟩) rfl rfl rfl
  exact ⟨⟨rfl, rfl, ⟨_, hprompt.trans (Prompt.written_of_none (by decide +kernel)), rfl⟩, rfl,
    nofun⟩, rfl⟩

/-- The prompt for 1 is another. -/
theorem renderedFrom_renewing : ∃ prompt,
    Prompt.renderedFrom .unlimited renewing (.map [(.text "a", .int 1)]) = .ok prompt ∧
      Prompt.rendered renewing [(.text "a", .int 5)] ≠ prompt :=
  ⟨Prompt.rendered renewing [(.text "a", .int 1)],
    (Prompt.renderedFrom_map ..).trans (Prompt.written_of_none (by decide +kernel)),
    by decide +kernel⟩

/-- A streamed call with a window of negative length is never made, although the contract and the
options are read, a transport is given, no checks are asked for and the parameters of the model can
be read. And where a check has changed the inputs, the one message of a call is not rendered from
those that were given. -/
theorem not_called_and_changed :
    (let o : Options := ⟨.text "m", .bool false, .int (-1), .null, .map []⟩
    Contract.ofValue (.contract asking) = .ok asking ∧
    (Options.resolve (.ofEnvironment []) (.options o) none).1 = .ok o ∧
    o.validate.truthy = false ∧ Generation.ofOptions o.providerOptions = .ok .unset ∧
    let outcome := streamed (.usual default) (.ofEnvironment []) (.contract asking) (.map [])
      (.options o) (some (StreamTransport.recording ⟨[(0, "[[ ## b ## ]]\nhi".toList)], none⟩))
      (fun _ => StreamTransport.recording ⟨[], none⟩) none []
    outcome.result = .failed (.windowNegative (.int (-1))) ∧ outcome.state = []) ∧
    ∃ sent prompt, (once ⟨updating, .usual default⟩ (.ofEnvironment []) (.contract renewing)
        (.map [(.text "a", .int 1)]) (.map []) (some (Transport.recording (.ok [])))
        (fun _ => Transport.recording (.ok [])) []).state =
          [⟨[.user (String.ofList sent)], .unset⟩] ∧
      Prompt.renderedFrom .unlimited renewing (.map [(.text "a", .int 1)]) = .ok prompt ∧
      sent ≠ prompt := by
  have hwindow : Window.exactly (.int (-1)) = .error (.windowNegative (.int (-1))) :=
    Window.exactly_of_negative (by decide) (by decide +kernel)
  refine ⟨⟨rfl, rfl, rfl, rfl, ?_, ?_⟩, ?_⟩
  · exact congrArg Outcome.result (streamed_of_window rfl rfl hwindow none [])
  · exact congrArg Outcome.state (streamed_of_window rfl rfl hwindow none [])
  obtain ⟨prompt, hrendered, hne⟩ := renderedFrom_renewing
  exact ⟨_, prompt, (once_of_sound (sound_updating _ _) []).1, hrendered, hne⟩

end Prediction

end PromptContract
