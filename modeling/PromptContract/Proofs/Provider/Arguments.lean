import PromptContract.Proofs.Generation.Options
import PromptContract.Proofs.Provider.Generated

/-!
# Options among the arguments of a request

What of a caller's options reaches a provider? An option crosses two splits, after which it is a
parameter or an extra, and is then put among the arguments of the request (`_request_kwargs`,
`_generation_config`): a parameter under the provider's own name for it (`argumentName`), an extra
under the name that it has. `options_reach` says so for all options of a call, and which are lost on
the way (`options_lost` shows some). What is refused is never sent (`sent_generate`, `sent_stream`).
-/

namespace PromptContract

open Generation

namespace Request

/-! ## Arguments under names -/

/-- What is found where an argument stands unless its value is null. -/
theorem get?_unlessNull (name : String) (v : Value) (key : String) :
    Entries.get? (unlessNull name v) key = if name = key then v.present? else none := by
  by_cases hnull : v = .null
  · rw [hnull]
    exact (ite_self _).symm
  · have hargument : unlessNull name v = [(.text name, v)] := by
      cases v with
      | null => exact absurd rfl hnull
      | _ => rfl
    rw [hargument, Entries.get?_cons_text, Value.present?_of_ne hnull]
    rfl

/-- What is found where an argument stands if its value counts as true. -/
theorem get?_ifTruthy (name : String) (v : Value) (key : String) :
    Entries.get? (ifTruthy name v) key =
      if name = key then (if v.truthy then some v else none) else none := by
  unfold ifTruthy
  split
  · exact Entries.get?_cons_text name v [] key
  · exact (ite_self _).symm

/-- The first of the extras is put first. -/
theorem withExtras_cons (arguments : Arguments) (e : Value × Value) (extra : Arguments) :
    withExtras arguments (e :: extra) = withExtras (arguments.put e.1 e.2) extra := rfl

/-- What is found among arguments with extras is what one of the extras has, else what was found
before. -/
theorem get?_withExtras {extra : Entries} (hdistinct : extra.NamesDistinct) (arguments : Arguments)
    (name : String) : Entries.get? (withExtras arguments extra) name =
      (extra.get? name).or (Entries.get? arguments name) := by
  induction extra generalizing arguments with
  | nil => rfl
  | cons e extra ih =>
    obtain ⟨hother, hdistinct⟩ := hdistinct.of_cons
    rw [withExtras_cons, ih hdistinct, Entries.get?_put, Entries.get?_cons]
    split
    · next hname =>
      rw [hother name hname]
      rfl
    · rfl

/-! ## Arguments in another order -/

/-- Extras are put among the same arguments in another order alike. -/
theorem withExtras_perm {arguments arguments' : Arguments} (h : arguments.Perm arguments')
    (extra : Arguments) : (withExtras arguments extra).Perm (withExtras arguments' extra) := by
  induction extra generalizing arguments arguments' with
  | nil => exact h
  | cons e extra ih => exact ih (Entries.put_perm h e.1 e.2)

/-- Extras of distinct names come to the same arguments in any order. -/
theorem withExtras_of_perm {extra extra' : Entries} (hperm : extra.Perm extra')
    (hnamed : extra.AreNamed) (hdistinct : extra.NamesDistinct) (arguments : Arguments) :
    (withExtras arguments extra).Perm (withExtras arguments extra') := by
  induction hperm generalizing arguments with
  | nil => exact .refl arguments
  | cons e _ ih =>
    exact ih (fun e he => hnamed e (List.mem_cons_of_mem _ he)) hdistinct.of_cons.2 _
  | swap e e' extra =>
    -- Two extras that change places have distinct names, so neither is put in the other's place.
    obtain ⟨s, hs⟩ := hnamed e (List.mem_cons_of_mem _ List.mem_cons_self)
    obtain ⟨t, ht⟩ := hnamed e' List.mem_cons_self
    have hne : t ≠ s := fun heq => by
      have hnone := hdistinct.of_cons.1 t (Value.isText_iff.mpr ht)
      rw [Entries.get?_cons, if_pos (Value.isText_iff.mpr (heq ▸ hs))] at hnone
      cases hnone
    exact withExtras_perm (Entries.put_comm arguments ht hs hne e'.2 e.2) extra
  | trans hperm _ ih ih' =>
    refine (ih hnamed hdistinct arguments).trans (ih' ?_ (hdistinct.perm hperm) arguments)
    exact fun e he => hnamed e (hperm.mem_iff.mpr he)

/-- Two requests are refused for the same reason, or have the same arguments up to their order. -/
inductive Alike : Except Failure Arguments → Except Failure Arguments → Prop
  | refused (why : Failure) : Alike (.error why) (.error why)
  | shaped {arguments arguments' : Arguments} (h : arguments.Perm arguments') :
    Alike (.ok arguments) (.ok arguments')

/-- Whether arguments are taken does not depend on their order. -/
theorem named_alike {arguments arguments' : Arguments} (h : arguments.Perm arguments') :
    Alike (named arguments) (named arguments') := by
  unfold named
  rw [h.all_eq]
  split
  · exact .shaped h
  · exact .refused _

/-- Arguments that are taken are those that were shaped. -/
theorem named_eq {arguments taken : Arguments} (h : named arguments = .ok taken) :
    taken = arguments := by
  unfold named at h
  split at h
  · exact (Except.ok.inj h).symm
  · cases h

end Request

/-! ## What is sent -/

/-- The name that a provider has for a parameter. -/
def Generation.argumentName : Provider → Parameter → String
  | .openai, .maxOutputTokens | .anthropic, .maxOutputTokens => "max_tokens"
  | .openai, .stopSequences => "stop"
  | _, .temperature => "temperature"
  | _, .maxOutputTokens => "max_output_tokens"
  | _, .topP => "top_p"
  | _, .topK => "top_k"
  | _, .stopSequences => "stop_sequences"

namespace Client

/-- What a client sends for a parameter. OpenAI is sent no limit on the number of choices, and
Anthropic is sent a limit on the reply in any case. -/
def argumentFor (client : Client) (g : Generation) : Parameter → Option Value
  | .temperature => g.temperature.present?
  | .maxOutputTokens =>
    match client.provider with
    | .anthropic => some (g.maxOutputTokens.orElse client.defaultMaxTokens)
    | .openai | .google => g.maxOutputTokens.present?
  | .topP => g.topP.present?
  | .topK =>
    match client.provider with
    | .openai => none
    | .anthropic | .google => g.topK.present?
  | .stopSequences =>
    if (Value.list g.stopSequences).truthy then some (.list g.stopSequences) else none

/-- No extra has the name of a parameter. -/
def ExtrasApart (g : Generation) : Prop :=
  ∀ e ∈ g.extra, parameter? e.1 = none

variable {client : Client} {messages : List Message} {g : Generation} {streaming : Bool}
  {arguments : Request.Arguments}

/-- The arguments for OpenAI come as they are, or behind the one that asks for a stream. -/
theorem request_openai (hprovider : client.provider = .openai)
    (h : client.request messages g streaming = .ok arguments) :
    arguments = Request.openai client.model messages g ∧ streaming = false ∨
      arguments = (.text "stream", .bool true) :: Request.openai client.model messages g ∧
        streaming = true ∧
        Entries.has (Request.openai client.model messages g) (.text "stream") = false := by
  unfold request at h
  rw [hprovider] at h
  cases streaming with
  | false => exact .inl ⟨Request.named_eq h, rfl⟩
  | true =>
    cases hhas : Entries.has (Request.openai client.model messages g) (.text "stream") with
    | true =>
      simp only [hhas] at h
      cases h
    | false =>
      simp only [hhas] at h
      exact .inr ⟨Request.named_eq h, rfl, rfl⟩

/-- OpenAI is sent what is shaped for it, and asked for a stream only under a name under which
nothing is shaped. -/
theorem get?_openai (hprovider : client.provider = .openai)
    (h : client.request messages g streaming = .ok arguments) (name : String) :
    Entries.get? arguments name =
        Entries.get? (Request.openai client.model messages g) name ∨
      "stream" = name ∧ Entries.get? (Request.openai client.model messages g) name = none := by
  rcases request_openai hprovider h with ⟨rfl, -⟩ | ⟨rfl, -, hhas⟩
  · exact .inl rfl
  · by_cases hname : "stream" = name
    · have hstream : (Value.text "stream").comparedText? = some "stream" := rfl
      rw [Entries.has_eq _ hstream, hname] at hhas
      exact .inr ⟨hname, Option.isNone_iff_eq_none.mp (Option.isSome_eq_false_iff.mp hhas)⟩
    · left
      rw [Entries.get?_cons_text, if_neg hname]

/-- The arguments for Anthropic come as they are. -/
theorem request_anthropic (hprovider : client.provider = .anthropic)
    (h : client.request messages g streaming = .ok arguments) :
    arguments = Request.anthropic client.model client.defaultMaxTokens messages g := by
  unfold request at h
  rw [hprovider] at h
  exact Request.named_eq h

/-- The arguments for Google come as they are, and it knows all extras. -/
theorem request_google (hprovider : client.provider = .google)
    (h : client.request messages g streaming = .ok arguments) :
    (∀ e ∈ g.extra, client.extras.names.any e.1.isText = true) ∧
      arguments = [(.text "contents", .list (Request.contents "" messages))]
        ++ Request.unlessNull "temperature" g.temperature
        ++ Request.unlessNull "max_output_tokens" g.maxOutputTokens
        ++ Request.unlessNull "top_p" g.topP ++ Request.unlessNull "top_k" g.topK
        ++ Request.ifTruthy "stop_sequences" (.list g.stopSequences) ++ g.extra.present
        ++ (if streaming then [(.text "stream", .bool true)] else []) := by
  unfold request at h
  rw [hprovider] at h
  have h : Request.google client.extras messages g streaming = .ok arguments := h
  unfold Request.google at h
  split at h
  · next hall => exact ⟨List.all_eq_true.mp hall, (Except.ok.inj h).symm⟩
  · cases h

/-- Under the name of a parameter an extra is never found. -/
theorem get?_extra_eq_none (h : ExtrasApart g) (provider : Provider) (p : Parameter) :
    g.extra.get? (argumentName provider p) = none := by
  rw [Entries.get?_eq_none_iff]
  refine fun e he => Bool.eq_false_iff.mpr fun hkey => ?_
  have hnone := h e he
  unfold parameter? at hnone
  rw [Value.isText_iff.mp hkey] at hnone
  cases provider <;> cases p <;> cases hnone

/-- A client sends just what it has to send for a parameter under the name of the parameter. -/
theorem get?_argumentName (h : client.request messages g streaming = .ok arguments)
    (hdistinct : g.extra.NamesDistinct) (hapart : ExtrasApart g) (p : Parameter) :
    Entries.get? arguments (argumentName client.provider p) = client.argumentFor g p := by
  have hextra := get?_extra_eq_none hapart client.provider p
  unfold argumentFor
  cases hprovider : client.provider with
  | openai =>
    rw [hprovider] at hextra
    have hother : ("stream" : String) ≠ argumentName .openai p := by cases p <;> decide
    rw [(get?_openai hprovider h _).resolve_right fun hstream => hother hstream.1]
    unfold Request.openai
    rw [Request.get?_withExtras hdistinct, hextra, Option.none_or]
    cases p <;> simp [argumentName, Entries.get?_append, Entries.get?_cons_text,
      Request.get?_unlessNull, Request.get?_ifTruthy]
  | anthropic =>
    rw [hprovider] at hextra
    rw [request_anthropic hprovider h]
    unfold Request.anthropic
    rw [Request.get?_withExtras hdistinct, hextra, Option.none_or]
    cases p <;> simp [argumentName, Entries.get?_append, Entries.get?_cons_text,
      Request.get?_unlessNull, Request.get?_ifTruthy]
  | google =>
    have hpresent : g.extra.present.get? (argumentName .google p) = none := by
      rw [hdistinct.get?_present, ← hprovider, hextra]
      rfl
    rw [(request_google hprovider h).2, Entries.get?_append, Entries.get?_append, hpresent]
    cases p <;> cases streaming <;> simp [argumentName, Entries.get?_append,
      Entries.get?_cons_text, Request.get?_unlessNull, Request.get?_ifTruthy]

/-- A client sends every extra that is not null under its own name. -/
theorem get?_of_mem_extra (h : client.request messages g streaming = .ok arguments)
    (hdistinct : g.extra.NamesDistinct) {e : Value × Value} (he : e ∈ g.extra) {name : String}
    (hkey : e.1.isText name = true) (hnull : e.2 ≠ .null) :
    Entries.get? arguments name = some e.2 := by
  have hextra : g.extra.get? name = some e.2 := hdistinct.get?_of_mem he hkey
  cases hprovider : client.provider with
  | openai =>
    have hfound : Entries.get? (Request.openai client.model messages g) name = some e.2 := by
      unfold Request.openai
      rw [Request.get?_withExtras hdistinct, hextra, Option.some_or]
    rcases get?_openai hprovider h name with hsent | ⟨-, hnone⟩
    · exact hsent.trans hfound
    -- An extra that asks for a stream itself would have been refused.
    · cases hnone.symm.trans hfound
  | anthropic =>
    rw [request_anthropic hprovider h]
    unfold Request.anthropic
    rw [Request.get?_withExtras hdistinct, hextra, Option.some_or]
  | google =>
    obtain ⟨hknown, rfl⟩ := request_google hprovider h
    -- An extra has one of the names that are known, none of which is that of a parameter.
    obtain ⟨known, hmem, hkey'⟩ := List.any_eq_true.mp (hknown e he)
    obtain rfl : known = name :=
      Option.some.inj ((Value.isText_iff.mp hkey').symm.trans (Value.isText_iff.mp hkey))
    have hpresent : g.extra.present.get? known = some e.2 := by
      rw [hdistinct.get?_present, hextra]
      exact Value.present?_of_ne hnull
    rw [Entries.get?_append, Entries.get?_append, hpresent]
    have hapart := client.extras.apart known hmem
    simp only [Request.googleNames, List.mem_cons, List.not_mem_nil, or_false, not_or] at hapart
    obtain ⟨hcontents, -, htemperature, hmax, htopP, htopK, hstop⟩ := hapart
    simp [Entries.get?_append, Entries.get?_cons_text, Request.get?_unlessNull,
      Request.get?_ifTruthy, Ne.symm hcontents, Ne.symm htemperature, Ne.symm hmax, Ne.symm htopP,
      Ne.symm htopK, Ne.symm hstop]

/-- The order of the extras does not matter to a request. -/
theorem request_alike {extra : Entries} (hperm : g.extra.Perm extra) (hnamed : g.extra.AreNamed)
    (hdistinct : g.extra.NamesDistinct) : Request.Alike (client.request messages g streaming)
      (client.request messages { g with extra } streaming) := by
  unfold request
  cases client.provider with
  | openai =>
    have harguments : (Request.openai client.model messages g).Perm
        (Request.openai client.model messages { g with extra }) :=
      Request.withExtras_of_perm hperm hnamed hdistinct _
    have hhas : Entries.has (Request.openai client.model messages g) (.text "stream") =
        Entries.has (Request.openai client.model messages { g with extra }) (.text "stream") :=
      harguments.any_eq
    cases streaming with
    | false => exact Request.named_alike harguments
    | true =>
      simp only [Bool.not_true, Bool.false_eq_true, if_false, hhas]
      split
      · exact .refused _
      · exact Request.named_alike (harguments.cons _)
  | anthropic => exact Request.named_alike (Request.withExtras_of_perm hperm hnamed hdistinct _)
  | google =>
    unfold Request.google
    simp only [hperm.all_eq]
    split
    · exact .shaped (((hperm.filter _).append_left _).append_right _)
    · exact .refused _

/-- What is sent for a whole reply are the arguments of the request. -/
theorem sent_generate (client : Client) (messages : List Message) (g : Generation)
    (answer : Request.Arguments → Answer Value) :
    (client.generate messages g answer).1.sent = (client.request messages g false).toOption := by
  have hgenerated := generated client messages g answer
  generalize client.generate messages g answer = outcome at hgenerated ⊢
  cases hgenerated with
  | unshaped h | failed h | unread h | counted h =>
    rw [h]
    rfl

/-- So are those for a stream. -/
theorem sent_stream (client : Client) (messages : List Message) (g : Generation)
    (answer : Request.Arguments → Answer (List Value)) :
    (client.stream messages g answer).sent = (client.request messages g true).toOption := by
  unfold stream
  cases client.request messages g true with
  | error why => rfl
  | ok sent => cases hanswer : answer sent <;> simp only [hanswer] <;> rfl

/-! ## From the options of a call to the arguments -/

/-- The arguments that a client sends with messages for a call with options. -/
def requestFor (client : Client) (c : Context) (options : Value) (messages : List Message)
    (streaming : Bool) : Except Failure Request.Arguments := do
  let o ← (Options.resolve c options none).1
  client.request messages (← Generation.ofOptions o.providerOptions) streaming

/-- For a map of options these are the arguments for the options that are passed on. -/
theorem requestFor_map (client : Client) (c : Context) (es : Entries) (messages : List Message)
    (streaming : Bool) : client.requestFor c (.map es) messages streaming = (do
      let _ ← Options.fill c.reach es (← c.settings.1)
      let g ← Generation.ofEntries (Options.passedOn es)
      client.request messages g streaming) := by
  unfold requestFor
  rw [Options.resolve_map]
  simp only [bind_assoc, pure_bind, Generation.ofOptions_map]

/-- What options come to under distinct names, with extras that are apart. -/
theorem exists_of_ofEntries {es : Entries} (hnamed : es.AreNamed) (hdistinct : es.NamesDistinct)
    (h : Generation.ofEntries es = .ok g) :
    ∃ lists, stopLists es = .ok lists ∧ g = ofLists es lists ∧
      g.extra.AreNamed ∧ g.extra.NamesDistinct ∧ ExtrasApart g := by
  rw [Generation.ofEntries_eq hnamed hdistinct] at h
  cases hlists : stopLists es with
  | error why =>
    rw [hlists] at h
    cases h
  | ok lists =>
    rw [hlists] at h
    obtain rfl := Except.ok.inj h
    exact ⟨lists, rfl, rfl, fun e he => hnamed e (List.mem_of_mem_filter he),
      hdistinct.sublist List.filter_sublist,
      fun e he => Option.isNone_iff_eq_none.mp (List.mem_filter.mp he).2⟩

/-- What is sent for a parameter other than texts at which replies stop is the value of the last
option for it, unless that is null. -/
theorem argumentFor_ofLists {es : Entries} {lists : List (List Value)} {p : Parameter} {v : Value}
    (hlast : last? es p = some v) (hp : p ≠ .stopSequences) :
    client.argumentFor (ofLists es lists) p =
      if client.provider = .openai ∧ p = .topK then none
      else if client.provider = .anthropic ∧ p = .maxOutputTokens then
        some (v.orElse client.defaultMaxTokens)
      else v.present? := by
  cases p with
  | stopSequences => exact absurd rfl hp
  | temperature | topP => simp [argumentFor, ofLists, hlast]
  | maxOutputTokens | topK =>
    cases hprovider : client.provider <;> simp [argumentFor, ofLists, hprovider, hlast]

/-- Options reach the provider, or the request is refused. An extra that is not null is sent under
its own name, and the last option for a parameter under the provider's name for that, a text at
which replies stop in a list. Lost are a limit on the number of choices for OpenAI, a limit on the
reply for Anthropic that counts as false, lists of texts that count as false, and all options for a
parameter in front of a last one that is null, which is not sent. The order of the options matters
only among those for one parameter. -/
theorem options_reach {es : Entries} (hnamed : es.AreNamed) (hdistinct : es.NamesDistinct)
    (client : Client) (c : Context) (messages : List Message) (streaming : Bool) :
    (∀ arguments, client.requestFor c (.map es) messages streaming = .ok arguments →
      (∀ e ∈ es, ∀ name, e.1.isText name = true → name ∉ Options.ownNames →
        parameter? e.1 = none → e.2 ≠ .null → Entries.get? arguments name = some e.2) ∧
      (∀ p v, last? es p = some v → p ≠ .stopSequences →
        Entries.get? arguments (argumentName client.provider p) =
          if client.provider = .openai ∧ p = .topK then none
          else if client.provider = .anthropic ∧ p = .maxOutputTokens then
            some (v.orElse client.defaultMaxTokens)
          else v.present?) ∧
      ∀ v, last? es .stopSequences = some v → ∃ stops, stopsOf v = .ok stops ∧
        (∀ s, v = .text s → stops = [.text s]) ∧ (∀ vs, v = .list vs → stops = vs) ∧
        Entries.get? arguments (argumentName client.provider .stopSequences) =
          if stops = [] then none else some (.list stops)) ∧
    ∀ es', Reordered es es' →
      Request.Alike (client.requestFor c (.map es) messages streaming)
        (client.requestFor c (.map es') messages streaming) := by
  have hpassed : (Options.passedOn es).AreNamed := fun e he => hnamed e (List.mem_of_mem_filter he)
  have hpassed' : (Options.passedOn es).NamesDistinct := hdistinct.sublist List.filter_sublist
  constructor
  · intro arguments h
    rw [requestFor_map] at h
    obtain ⟨_, -, h⟩ := exists_of_bind_eq_ok h
    obtain ⟨_, -, h⟩ := exists_of_bind_eq_ok h
    obtain ⟨g, hg, h⟩ := exists_of_bind_eq_ok h
    obtain ⟨lists, hlists, rfl, -, hextra', hapart⟩ := exists_of_ofEntries hpassed hpassed' hg
    have hparameter := get?_argumentName h hextra' hapart
    refine ⟨fun e he name hkey hown hnone hnull => ?_, fun p v hlast hp => ?_,
      fun v hlast => ?_⟩
    · have hmem : e ∈ Generation.extras (Options.passedOn es) :=
        List.mem_filter.mpr ⟨Options.mem_passedOn he hkey hown, by rw [hnone]; rfl⟩
      exact get?_of_mem_extra h hextra' hmem hkey hnull
    · rw [← Options.last?_passedOn] at hlast
      rw [hparameter, argumentFor_ofLists hlast hp]
    · rw [← Options.last?_passedOn] at hlast
      have hstops := stopsOf_last hlists hlast
      refine ⟨_, hstops, (stopsOf_eq hstops).1, (stopsOf_eq hstops).2, ?_⟩
      rw [hparameter]
      unfold argumentFor ofLists
      cases lists.getLastD [] <;> rfl
  -- In another order the parameters are the same, and the extras are those in another order.
  · intro es' h
    have hgetD (name : String) (_ : name ∈ Options.ownNames) : es.getD name = es'.getD name := by
      unfold Entries.getD
      rw [hdistinct.get?_perm h.perm]
    have hreordered := Options.reordered_passedOn h
    rw [requestFor_map, requestFor_map]
    cases c.settings.1 with
    | error why => exact .refused why
    | ok s =>
      simp only [ok_bind]
      rw [Options.fill_of_getD hgetD]
      cases Options.fill c.reach es s with
      | error why => exact .refused why
      | ok o =>
        simp only [ok_bind]
        rw [hreordered.ofEntries_eq hpassed hpassed']
        cases hg : ofEntries (Options.passedOn es) with
        | error why => exact .refused why
        | ok g =>
          obtain ⟨lists, -, rfl, hextra, hextra', -⟩ := exists_of_ofEntries hpassed hpassed' hg
          exact request_alike hreordered.extras_perm hextra hextra'

/-! ### Options that reach a provider, and some that do not -/

/-- A client as it is made for a model, before any request. -/
def fresh (provider : Provider) : Client where
  provider
  model := .text "m"
  key := .text "k"
  defaultMaxTokens := .int 4096
  address := ""
  extras := ⟨[], nofun⟩
  usage := 0
  requests := 0

/-- Two options for one parameter, and an extra. -/
def mixed : Entries :=
  [(.text "max_tokens", .int 5), (.text "seed", .int 1), (.text "max_output_tokens", .int 7)]

/-- Of two options for the limit on the reply the later is sent, and an extra is sent beside it. -/
theorem options_reach_mixed : ∃ arguments,
    (fresh .openai).requestFor (.ofEnvironment []) (.map mixed) [.user "hi"] false =
        .ok arguments ∧
      Entries.get? arguments "seed" = some (.int 1) ∧
      Entries.get? arguments "max_tokens" = some (.int 7) := by
  have hnamed : Entries.AreNamed mixed := by decide
  have hdistinct : Entries.NamesDistinct mixed := by decide
  have hreach := (options_reach hnamed hdistinct (fresh .openai) (.ofEnvironment [])
    [.user "hi"] false).1
  refine ⟨_, rfl, ?_, ?_⟩
  · exact (hreach _ rfl).1 (.text "seed", .int 1) (.tail _ (.head _)) "seed" (by decide) (by decide)
      (by decide) nofun
  · exact (hreach _ rfl).2.1 .maxOutputTokens (.int 7) rfl nofun

/-- What is sent to a provider for a call with options and one message. -/
def sentFor (provider : Provider) (options : Entries) : Except Failure Request.Arguments :=
  (fresh provider).requestFor (.ofEnvironment []) (.map options) [.user "hi"] false

/-- A limit on the number of choices is not sent to OpenAI, a limit of no tokens not to Anthropic, a
number in the place of texts at which replies stop to neither, and a limit on the reply not where
one that is null follows under its other name. -/
theorem options_lost :
    let bare : Request.Arguments :=
      [(.text "model", .text "m"), (.text "messages", .list [(Message.user "hi").toValue])]
    sentFor .openai [(.text "top_k", .int 5)] = .ok bare ∧
    sentFor .anthropic [(.text "max_tokens", .int 0)] =
      .ok [(.text "model", .text "m"), (.text "max_tokens", .int 4096),
        (.text "messages", .list [(Message.user "hi").toValue])] ∧
    sentFor .openai [(.text "stop", .int 0)] = .ok bare ∧
    sentFor .openai [(.text "max_tokens", .int 5), (.text "max_output_tokens", .null)] = .ok bare :=
  ⟨rfl, rfl, rfl, rfl⟩

end Client

end PromptContract
