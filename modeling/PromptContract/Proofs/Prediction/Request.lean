import PromptContract.Proofs.Prediction.Sending
import PromptContract.Proofs.Provider.Arguments
import PromptContract.Provider.Connection

/-!
# What a call sends

The prompt and the model of a call stand among the arguments of a request (`_request_kwargs`), and
the options that are passed on are put among the same arguments. Can they take their place? What is
found there is an extra of the name, and else the model and the messages (`get?_request`). The model
is taken out of the options before they are passed on, so what is sent is the client's. The messages
are the one with the prompt, unless there is an option `messages`: it is an extra like any other,
and replaces them (`extra_of_resolve`). `prompt_sent` says so for all calls through a client of
OpenAI or Anthropic, with any libraries, and from what one call sends it follows that two calls with
the same options of a meaning of their own send the same prompt, whatever the other options are.
`messages_replaced` shows the exception, and another one: the prompt is that for the inputs as a
check leaves them.
-/

namespace PromptContract

/-! ## The model and the messages of a request -/

namespace Client

variable {client : Client} {messages : List Message} {g : Generation} {streaming : Bool}
  {arguments : Request.Arguments} {text : String}

/-- Among the arguments of a request for one message of the user an extra of some name counts, and
else the model and the message are found. -/
theorem get?_request (hgoogle : client.provider ≠ .google)
    (h : client.request [.user text] g streaming = .ok arguments)
    (hdistinct : g.extra.NamesDistinct) :
    Entries.get? arguments "model" = some ((g.extra.get? "model").getD client.model) ∧
      Entries.get? arguments "messages" =
        some ((g.extra.get? "messages").getD (.list [(Message.user text).toValue])) := by
  cases hprovider : client.provider with
  | google => exact absurd hprovider hgoogle
  | openai =>
    have hsent (name : String) (hname : "stream" ≠ name) :=
      (get?_openai hprovider h name).resolve_right fun hstream => hname hstream.1
    rw [hsent "model" (by decide), hsent "messages" (by decide)]
    unfold Request.openai
    rw [Request.get?_withExtras hdistinct, Request.get?_withExtras hdistinct]
    constructor
    · cases g.extra.get? "model" <;> simp [Entries.get?_cons_text]
    · cases g.extra.get? "messages" <;> simp [Entries.get?_cons_text]
  | anthropic =>
    rw [request_anthropic hprovider h]
    unfold Request.anthropic
    rw [Request.get?_withExtras hdistinct, Request.get?_withExtras hdistinct]
    constructor
    · cases g.extra.get? "model" <;> simp [Entries.get?_cons_text]
    · cases g.extra.get? "messages" <;> simp [Entries.get?_cons_text, Message.user]

end Client

/-- The extras of a call have distinct names. The model is none of them, and an option `messages`
is. -/
theorem Options.extra_of_resolve {c : Context} {es : Entries} (hdistinct : es.NamesDistinct)
    {o : Options} (h : (Options.resolve c (.map es) none).1 = .ok o) {g : Generation}
    (hg : Generation.ofOptions o.providerOptions = .ok g) :
    g.extra.NamesDistinct ∧ g.extra.get? "model" = none ∧
      g.extra.get? "messages" = es.get? "messages" := by
  rw [resolve_map] at h
  obtain ⟨s, -, h⟩ := exists_of_bind_eq_ok h
  obtain ⟨filled, -, h⟩ := exists_of_bind_eq_ok h
  obtain rfl := Except.ok.inj h
  rw [Generation.ofOptions_map] at hg
  obtain ⟨hextra, hfound⟩ := Generation.extra_of_ofEntries hg
  have hfound := hfound (hdistinct.sublist List.filter_sublist)
  refine ⟨hextra, ?_, ?_⟩
  · rw [hfound "model" (by decide), get?_passedOn, if_pos (by decide)]
  · rw [hfound "messages" (by decide), get?_passedOn, if_neg (by decide)]

/-! ## Calls through clients -/

namespace Connection

/-- What a provider answers to requests for whole and for streamed replies. -/
structure Answers where
  whole : Request.Arguments → Answer Value
  streamed : Request.Arguments → Answer (List Value)

/-- A transport of connections, through a client in the place of the connection's own. -/
def through {ρ : Type} (transport : ModelCall → Connection → ρ × Connection) (client : Client) :
    ModelCall → Connection → ρ × Connection := fun call conn => transport call { conn with client }

variable (a : Answers)

/-- Behind a call for a whole reply, the arguments of the request were sent if it could be
shaped. -/
theorem sent_transport (call : ModelCall) (conn : Connection) :
    let after := (transport a.whole call conn).2
    after.sent = conn.sent ++
        (conn.client.request call.messages call.generation false).toOption.toList ∧
      after.client.provider = conn.client.provider ∧ after.client.model = conn.client.model := by
  refine ⟨?_, conn.client.identity_generate call.messages call.generation a.whole⟩
  rw [← conn.client.sent_generate call.messages call.generation a.whole]
  rfl

/-- So they were behind a call for a streamed one. -/
theorem sent_streamTransport (call : ModelCall) (conn : Connection) :
    let after := (streamTransport a.streamed call conn).2
    after.sent = conn.sent ++
        (conn.client.request call.messages call.generation true).toOption.toList ∧
      after.client.provider = conn.client.provider ∧ after.client.model = conn.client.model := by
  refine ⟨?_, rfl, rfl⟩
  rw [← conn.client.sent_stream call.messages call.generation a.streamed]
  rfl

end Connection

namespace Prediction

open Connection

/-- How a reply is asked for: as a whole, or in pieces until as many maps are shown as are
wanted. -/
inductive Mode
  | whole
  | streamed (wanted : Option Nat)

/-- Whether a reply is asked for in pieces. -/
def Mode.isStreamed : Mode → Bool
  | .whole => false
  | .streamed _ => true

/-- The connection behind a call: through its own client if that is passed, else through one that is
made for the call. -/
def connectionAfter (libs : Libraries) (a : Answers) (mode : Mode) (passed : Bool) (c : Context)
    (contract inputs options : Value) (conn : Connection) : Connection :=
  match mode with
  | .whole => (once libs c contract inputs options
      (if passed then some (transport a.whole) else none)
      (through (transport a.whole)) conn).state
  | .streamed wanted => (streamed libs c contract inputs options
      (if passed then some (streamTransport a.streamed) else none)
      (through (streamTransport a.streamed)) wanted conn).state

/-- A call goes through some client in the place of the connection's own, which may be that one. -/
theorem exists_client {ρ : Type} {transport t : ModelCall → Connection → ρ × Connection}
    {passed : Bool} {libs : Libraries} {c : Context} {o : Options}
    (h : (transportFor libs c o (if passed then some transport else none)
      (through transport)).1 = .ok t)
    (conn : Connection) : ∃ client, ∀ call, t call conn = transport call { conn with client } := by
  cases passed with
  | true =>
    obtain rfl : transport = t := Except.ok.inj h
    exact ⟨conn.client, fun _ => rfl⟩
  | false =>
    obtain ⟨client, -, rfl⟩ := exists_of_map_eq_ok h
    exact ⟨client, fun _ => rfl⟩

section Sent

variable (libs : Libraries) (a : Answers) (mode : Mode) (passed : Bool) (c : Context)
  (contract inputs : Value) (conn : Connection)

/-- A call leaves the connection as it was, or a client has shaped a request for the message with
the prompt, and that was sent if it could be shaped. -/
theorem connectionAfter_cases (options : Value) :
    let after := connectionAfter libs a mode passed c contract inputs options conn
    after = conn ∨ ∃ (client : Client) (prompt : List Char) (o : Options) (g : Generation),
      promptOf libs c contract inputs options = .ok prompt ∧
      (Options.resolve c options none).1 = .ok o ∧
      Generation.ofOptions o.providerOptions = .ok g ∧
      after.sent = conn.sent ++ (client.request [.user (String.ofList prompt)] g
        mode.isStreamed).toOption.toList ∧
      after.client.provider = client.provider ∧ after.client.model = client.model := by
  -- The one call of a transport is one request of the client behind it.
  cases mode with
  | whole =>
    rcases once_cases libs c contract inputs options
      (if passed then some (transport a.whole) else none)
      (through (transport a.whole)) conn with ⟨p, g, hsound, hstate, -⟩ | ⟨-, why, -, hstate, -⟩
    · obtain ⟨prompt, hprompt, hmessages⟩ := hsound.messages_eq
      obtain ⟨client, htransport⟩ := exists_client hsound.transport_eq conn
      have hsent := sent_transport a ⟨p.messages, g⟩ { conn with client }
      rw [← htransport, ← hstate, hmessages] at hsent
      exact .inr ⟨client, prompt, p.options, g, hprompt, hsound.options_eq, hsound.generation_eq,
        hsent⟩
    · exact .inl hstate
  | streamed wanted =>
    rcases streamed_cases libs c contract inputs options
      (if passed then some (streamTransport a.streamed) else none)
      (through (streamTransport a.streamed)) wanted conn
      with ⟨p, g, window, queueSize, hsound, hstate, -⟩ | ⟨-, why, -, hstate, -⟩
    · obtain ⟨prompt, hprompt, hmessages⟩ := hsound.messages_eq
      obtain ⟨client, htransport⟩ := exists_client hsound.transport_eq conn
      have hsent := sent_streamTransport a ⟨p.messages, g⟩ { conn with client }
      rw [← htransport, ← hstate, hmessages] at hsent
      exact .inr ⟨client, prompt, p.options, g, hprompt, hsound.options_eq, hsound.generation_eq,
        hsent⟩
    · exact .inl hstate

/-- A call sends one request at most. -/
theorem sent_at_most_once (options : Value) :
    let after := connectionAfter libs a mode passed c contract inputs options conn
    after.sent = conn.sent ∨ ∃ arguments, after.sent = conn.sent ++ [arguments] := by
  intro after
  rcases connectionAfter_cases libs a mode passed c contract inputs conn options with
    hafter | ⟨client, prompt, o, g, -, -, -, hsent, -⟩
  · exact .inl (congrArg Connection.sent hafter)
  · cases hrequest : client.request [.user (String.ofList prompt)] g mode.isStreamed with
    | error why =>
      rw [hrequest] at hsent
      exact .inl (hsent.trans (List.append_nil _))
    | ok arguments =>
      rw [hrequest] at hsent
      exact .inr ⟨arguments, hsent⟩

/-- What a call with a map of options sends through a client of OpenAI or Anthropic. -/
theorem exists_of_sent {es : Entries} (hdistinct : es.NamesDistinct)
    {arguments : Request.Arguments}
    (hsent : (connectionAfter libs a mode passed c contract inputs (.map es) conn).sent =
      conn.sent ++ [arguments])
    (hgoogle :
      (connectionAfter libs a mode passed c contract inputs (.map es) conn).client.provider ≠
        .google) :
    ∃ prompt, promptOf libs c contract inputs (.map es) = .ok prompt ∧
      Entries.get? arguments "model" =
        some (connectionAfter libs a mode passed c contract inputs (.map es) conn).client.model ∧
      Entries.get? arguments "messages" = some ((es.get? "messages").getD
        (.list [(Message.user (String.ofList prompt)).toValue])) := by
  rcases connectionAfter_cases libs a mode passed c contract inputs conn (.map es) with
    hafter | ⟨client, prompt, o, g, hprompt, hoptions, hgeneration, hshaped, hprovider, hmodel⟩
  -- A connection that is as it was has not sent one request more.
  · rw [hafter] at hsent
    simp at hsent
  · refine ⟨prompt, hprompt, ?_⟩
    rw [hsent, List.append_cancel_left_eq] at hshaped
    rw [hprovider] at hgoogle
    cases hrequest : client.request [.user (String.ofList prompt)] g mode.isStreamed with
    | error why =>
      rw [hrequest] at hshaped
      cases hshaped
    | ok shaped =>
      rw [hrequest] at hshaped
      obtain rfl : arguments = shaped := List.cons.inj hshaped |>.1
      obtain ⟨hextra, hnone, hmessages⟩ :=
        Options.extra_of_resolve hdistinct hoptions hgeneration
      have hfound := Client.get?_request hgoogle hrequest hextra
      rwa [hnone, hmessages, Option.getD_none, ← hmodel] at hfound

end Sent

/-- The prompt depends on the options of a meaning of their own alone. -/
theorem promptOf_congr {es es' : Entries}
    (h : ∀ name ∈ Options.ownNames, es.getD name = es'.getD name) (libs : Libraries) (c : Context)
    (contract inputs : Value) :
    promptOf libs c contract inputs (.map es') = promptOf libs c contract inputs (.map es) := by
  unfold promptOf
  rw [Options.resolve_of_getD h]
  refine bind_congr fun k => ?_
  cases (Options.resolve c (.map es) none).1 <;> rfl

/-- A call through a client of OpenAI or Anthropic that sends a request states the model of the
client, and one message of the user with the prompt, unless there is an option `messages`: that is
sent in the place of the message. Two calls without such an option, of which the options differ only
in what is passed on, send the same messages. -/
theorem prompt_sent (libs : Libraries) (a : Answers) (mode : Mode) (passed : Bool) (c : Context)
    (contract inputs : Value) (conn : Connection) {es : Entries} (hdistinct : es.NamesDistinct) :
    let after (es : Entries) := connectionAfter libs a mode passed c contract inputs (.map es) conn
    ((after es).sent = conn.sent ∨
      ∃ arguments, (after es).sent = conn.sent ++ [arguments]) ∧
    (∀ arguments, (after es).sent = conn.sent ++ [arguments] →
      (after es).client.provider ≠ .google →
      ∃ prompt, Renders libs c contract inputs (.map es) prompt ∧
        Entries.get? arguments "model" = some (after es).client.model ∧
        Entries.get? arguments "messages" = some ((es.get? "messages").getD
          (.list [(Message.user (String.ofList prompt)).toValue]))) ∧
    ∀ es' : Entries, es'.NamesDistinct →
      (∀ name ∈ Options.ownNames, es.getD name = es'.getD name) →
      es.get? "messages" = none → es'.get? "messages" = none →
      ∀ arguments arguments', (after es).sent = conn.sent ++ [arguments] →
        (after es').sent = conn.sent ++ [arguments'] →
        (after es).client.provider ≠ .google → (after es').client.provider ≠ .google →
        Entries.get? arguments "messages" = Entries.get? arguments' "messages" := by
  intro after
  refine ⟨sent_at_most_once libs a mode passed c contract inputs conn (.map es),
    fun arguments hsent hgoogle => ?_, fun es' hdistinct' hown hnone hnone' arguments arguments'
    hsent hsent' hgoogle hgoogle' => ?_⟩
  · obtain ⟨prompt, hprompt, hfound⟩ :=
      exists_of_sent libs a mode passed c contract inputs conn hdistinct hsent hgoogle
    exact ⟨prompt, renders_of_promptOf hprompt, hfound⟩
  · obtain ⟨prompt, hprompt, -, hmessages⟩ :=
      exists_of_sent libs a mode passed c contract inputs conn hdistinct hsent hgoogle
    obtain ⟨prompt', hprompt', -, hmessages'⟩ :=
      exists_of_sent libs a mode passed c contract inputs conn hdistinct' hsent' hgoogle'
    -- What the two calls render depends on nothing in which their options differ.
    obtain rfl : prompt = prompt' := by
      rw [promptOf_congr hown] at hprompt'
      exact Except.ok.inj (hprompt.symm.trans hprompt')
    rw [hmessages, hmessages', hnone, hnone']

/-- A provider that fails whatever it is asked. -/
def refusing : Answers := ⟨fun _ => .failed "no", fun _ => .failed "no"⟩

/-- A call without checks, through a client of OpenAI that has sent nothing. -/
def freshly (es : Entries) : Connection :=
  connectionAfter (.usual default) refusing .whole true (.ofEnvironment []) (.contract asking)
    (.map []) (.map ((.text "validate", .bool false) :: es))
    (Connection.ofClient (Client.fresh .openai))

/-- An option that is passed on makes no difference to the messages. -/
theorem prompt_sent_seeded : ∃ arguments arguments' prompt,
    (freshly []).sent = [arguments] ∧ (freshly [(.text "seed", .int 1)]).sent = [arguments'] ∧
      Renders (.usual default) (.ofEnvironment []) (.contract asking) (.map [])
        (.map [(.text "validate", .bool false)]) prompt ∧
      Entries.get? arguments "messages" =
        some (.list [(Message.user (String.ofList prompt)).toValue]) ∧
      Entries.get? arguments' "messages" = Entries.get? arguments "messages" := by
  obtain ⟨-, hsent, hagree⟩ := prompt_sent (.usual default) refusing .whole true (.ofEnvironment [])
    (.contract asking) (.map []) (Connection.ofClient (Client.fresh .openai))
    (show Entries.NamesDistinct [(.text "validate", .bool false)] by decide)
  obtain ⟨prompt, hrenders, -, hmessages⟩ := hsent _ rfl (by decide)
  have hown : ∀ name ∈ Options.ownNames, Entries.getD [(.text "validate", .bool false)] name =
      Entries.getD [(.text "validate", .bool false), (.text "seed", .int 1)] name := by
    simp only [Options.ownNames, List.forall_mem_cons]
    exact ⟨rfl, rfl, rfl, rfl, nofun⟩
  exact ⟨_, _, prompt, rfl, rfl, hrenders, hmessages,
    (hagree [(.text "validate", .bool false), (.text "seed", .int 1)] (by decide) hown rfl rfl
      _ _ rfl rfl (by decide) (by decide)).symm⟩

/-- An option `messages` is sent in the place of the message with the prompt. And the prompt that is
sent is not that for the inputs of the call where a check has changed them. -/
theorem messages_replaced :
    (freshly [(.text "messages", .list [])]).sent =
      [[(.text "model", .text "m"), (.text "messages", .list [])]] ∧
    ∃ sent prompt, (connectionAfter ⟨updating, .usual default⟩ refusing .whole true
        (.ofEnvironment []) (.contract renewing) (.map [(.text "a", .int 1)]) (.map [])
        (Connection.ofClient (Client.fresh .openai))).sent =
          [[(.text "model", .text "m"),
            (.text "messages", .list [(Message.user (String.ofList sent)).toValue])]] ∧
      Prompt.renderedFrom .unlimited renewing (.map [(.text "a", .int 1)]) = .ok prompt ∧
      sent ≠ prompt := by
  obtain ⟨prompt, hrendered, hne⟩ := renderedFrom_renewing
  have hstate := (once_of_sound (sound_updating (transport refusing.whole)
    (through (transport refusing.whole))) (Connection.ofClient (Client.fresh .openai))).1
  refine ⟨rfl, Prompt.rendered renewing [(.text "a", .int 5)], prompt, ?_, hrendered, hne⟩
  unfold connectionAfter
  simp only [if_true]
  rw [hstate]
  rfl

end Prediction

end PromptContract
