import PromptContract.Proofs.Provider.Arguments

/-!
# Messages in the arguments of a request

A request is to carry every message once (`_convert_messages`): those of the user and the assistant
in their order, and the texts of the system in a place of their own, which is among the messages for
OpenAI, an argument for Anthropic and the front of a message of the user for Google (`Carries`). For
OpenAI that is so. Anthropic is sent the last text of the system only, and Google of each run of
such texts before a message of the user the last, and none without one (`isLost`). The messages that
are not lost are carried, and the lost ones leave no trace in the request (`request_carries`).
-/

namespace PromptContract

namespace Message

/-- A message of a role with a meaning, with a text of at least one character. -/
structure IsSpoken (m : Message) : Prop where
  role : m.role = "system" ∨ m.role = "user" ∨ m.role = "assistant"
  content : m.content ≠ ""

/-- A message is one of the system. -/
def isSystem (m : Message) : Bool := m.role == "system"

/-- The messages of the system. -/
def ofSystem (ms : List Message) : List Message := ms.filter isSystem

/-- The messages of the dialogue, which are all others. -/
def ofDialogue (ms : List Message) : List Message := ms.filter fun m => !m.isSystem

/-! ## Messages that are lost -/

/-- Whether a message of the user comes before any further one of the system. -/
def reachesUser : List Message → Bool
  | [] => false
  | m :: rest => if m.isSystem then false else m.role == "user" || reachesUser rest

/-- Whether a provider is not sent a message, which the messages behind it decide. -/
def isLost (p : Provider) (m : Message) (rest : List Message) : Bool :=
  m.isSystem && match p with
    | .openai => false
    | .anthropic => rest.any isSystem
    | .google => !reachesUser rest

/-- The messages that a provider is sent. -/
def kept (p : Provider) : List Message → List Message
  | [] => []
  | m :: rest => if isLost p m rest then kept p rest else m :: kept p rest

/-- A message of the dialogue is not lost. -/
theorem isLost_of_dialogue {m : Message} (h : m.isSystem = false) (p : Provider)
    (rest : List Message) : isLost p m rest = false := by
  unfold isLost
  rw [h]
  rfl

/-- So the dialogue is kept as it is. -/
theorem ofDialogue_kept (p : Provider) (ms : List Message) :
    ofDialogue (kept p ms) = ofDialogue ms := by
  induction ms with
  | nil => rfl
  | cons m rest ih =>
    unfold ofDialogue at ih ⊢
    unfold kept
    cases hsystem : m.isSystem with
    | true => split <;> simp [hsystem, ih]
    | false => simp [isLost_of_dialogue hsystem, hsystem, ih]

/-- The messages that are kept are some of the messages. -/
theorem length_kept_le (p : Provider) (ms : List Message) : (kept p ms).length ≤ ms.length := by
  induction ms with
  | nil => exact Nat.le_refl 0
  | cons m rest ih =>
    unfold kept
    split <;> simp <;> omega

/-- All messages are kept if none is lost where it stands. -/
theorem kept_eq_self_iff (p : Provider) (ms : List Message) : kept p ms = ms ↔
    ∀ before m after, ms = before ++ m :: after → isLost p m after = false := by
  induction ms with
  | nil => simp [kept]
  | cons m rest ih =>
    have hlength := length_kept_le p rest
    unfold kept
    cases hlost : isLost p m rest with
    | true =>
      refine ⟨fun h => ?_, fun h => ?_⟩
      · -- What is left is too short to be the whole.
        have hlength' := congrArg List.length h
        simp at hlength'
        omega
      · rw [h [] m rest rfl] at hlost
        cases hlost
    | false =>
      simp only [Bool.false_eq_true, if_false, List.cons.injEq, true_and]
      rw [ih]
      constructor
      · intro h before m' after heq
        cases before with
        | nil =>
          obtain ⟨rfl, rfl⟩ := List.cons.inj heq
          exact hlost
        | cons _ before => exact h before m' after (List.cons.inj heq).2
      · exact fun h before m' after heq => h (m :: before) m' after (congrArg (m :: ·) heq)

/-- OpenAI is sent every message. -/
theorem kept_openai (ms : List Message) : kept .openai ms = ms :=
  (kept_eq_self_iff .openai ms).mpr fun _ m _ _ => Bool.and_false m.isSystem

/-- Of the messages of the system Anthropic is sent the last one. -/
theorem ofSystem_kept_anthropic (ms : List Message) :
    ofSystem (kept .anthropic ms) = (ofSystem ms).getLast?.toList := by
  induction ms with
  | nil => rfl
  | cons m rest ih =>
    unfold ofSystem at ih ⊢
    unfold kept
    cases hsystem : m.isSystem with
    | false => simp [isLost_of_dialogue hsystem, hsystem, ih]
    | true =>
      -- It is lost if another one follows.
      have hlost : isLost .anthropic m rest = rest.any isSystem := by
        unfold isLost
        rw [hsystem]
        rfl
      rw [hlost, List.filter_cons_of_pos hsystem]
      cases hany : rest.any isSystem with
      | true =>
        have hne : rest.filter isSystem ≠ [] := by
          obtain ⟨m', hm', hsystem'⟩ := List.any_eq_true.mp hany
          exact List.ne_nil_of_mem (List.mem_filter.mpr ⟨hm', hsystem'⟩)
        rw [if_pos rfl, ih, List.getLast?_cons_of_ne_nil hne]
      | false =>
        have hnone : rest.filter isSystem = [] :=
          List.filter_eq_nil_iff.mpr (List.any_eq_false.mp hany)
        rw [if_neg (by simp), List.filter_cons_of_pos hsystem, ih, hnone]
        rfl

end Message

namespace Request

open Message

/-! ## How requests carry messages -/

/-- An entry of the list that Google takes: a message of the dialogue with those of the system that
stand in front of it. -/
structure Turn where
  leads : List Message
  message : Message

namespace Turn

/-- The text of a turn, with a separator behind each text of the system. -/
def text (separator : String) (t : Turn) : String :=
  t.leads.foldr (fun m behind => m.content ++ separator ++ behind) t.message.content

/-- The entry that Google takes for a turn. Its name for the assistant is another one. -/
def value (separator : String) (t : Turn) : Value :=
  part (if t.message.role == "assistant" then "model" else t.message.role) (t.text separator)

end Turn

/-- The argument for the texts of the system, with a separator between them. -/
def systemArgument (separator : String) (ms : List Message) : Option Value :=
  if (ofSystem ms).isEmpty then none
  else some (.text (separator.intercalate ((ofSystem ms).map Message.content)))

/-- Arguments carry messages: every message once, those of the dialogue in their order and with
their roles, and the texts of the system in the place that the provider has for them. -/
inductive Carries (separator : String) (ms : List Message) (sent : Arguments) : Provider → Prop
  | openai (hmessages : Entries.get? sent "messages" = some (.list (ms.map toValue))) :
    Carries separator ms sent .openai
  | anthropic
    (hdialogue : Entries.get? sent "messages" = some (.list ((ofDialogue ms).map toValue)))
    (hsystem : Entries.get? sent "system" = systemArgument separator ms) :
    Carries separator ms sent .anthropic
  | google (turns : List Turn)
    (hcontents : Entries.get? sent "contents" = some (.list (turns.map (Turn.value separator))))
    (hdialogue : turns.map Turn.message = ofDialogue ms)
    (hsystem : turns.flatMap Turn.leads = ofSystem ms)
    (hplace : ∀ t ∈ turns, t.leads ≠ [] → t.message.role = "user") :
    Carries separator ms sent .google

/-! ## Turns -/

/-- What is put in front of the next message of the user while a message of the system waits. -/
def waitingText : Option Message → String
  | none => ""
  | some m => m.content ++ "\n\n"

/-- The entries that Google takes are turns, in which the waiting message of the system stands in
front of the first message of the user, if there is one before another waits. -/
theorem exists_turns {ms : List Message} (hspoken : ∀ m ∈ ms, m.IsSpoken)
    (waiting : Option Message) : ∃ turns : List Turn,
    contents (waitingText waiting) ms = turns.map (Turn.value "\n\n") ∧
    turns.map Turn.message = ofDialogue ms ∧
    turns.flatMap Turn.leads =
      (if reachesUser ms then waiting.toList else []) ++ ofSystem (kept .google ms) ∧
    ∀ t ∈ turns, t.leads ≠ [] → t.message.role = "user" := by
  induction ms generalizing waiting with
  | nil => exact ⟨[], rfl, rfl, rfl, nofun⟩
  | cons m rest ih =>
    have hrest : ∀ m ∈ rest, m.IsSpoken := fun m' hm' => hspoken m' (List.mem_cons_of_mem m hm')
    rcases (hspoken m List.mem_cons_self).role with hrole | hrole | hrole
    · -- A message of the system waits, in the place of one that has waited before.
      have hsystem : m.isSystem = true := beq_iff_eq.mpr hrole
      obtain ⟨turns, hcontents, hdialogue, hleads, hplace⟩ := ih hrest (some m)
      refine ⟨turns, ?_, ?_, ?_, hplace⟩
      · rw [← hcontents, contents, if_pos (beq_iff_eq.mpr hrole)]
        rfl
      · rw [hdialogue, ofDialogue, ofDialogue, List.filter_cons_of_neg (by simp [hsystem])]
      · rw [hleads]
        cases hreaches : reachesUser rest <;>
          simp [reachesUser, kept, isLost, ofSystem, hsystem, hreaches]
    · -- A message of the user takes what waits in front of it.
      obtain ⟨turns, hcontents, hdialogue, hleads, hplace⟩ := ih hrest none
      have hsystem : m.isSystem = false := by simp [isSystem, hrole]
      refine ⟨⟨waiting.toList, m⟩ :: turns, ?_, ?_, ?_, ?_⟩
      · have htext : Turn.value "\n\n" ⟨waiting.toList, m⟩ =
            part "user" (waitingText waiting ++ m.content) := by
          cases waiting <;> simp [Turn.value, Turn.text, waitingText, hrole]
        rw [List.map_cons, ← hcontents, htext, contents]
        simp [hrole, waitingText]
      · simp [ofDialogue, hsystem, hdialogue]
      · simp [reachesUser, hsystem, hrole, kept, isLost, ofSystem, hleads]
      · intro t ht hne
        rcases List.mem_cons.mp ht with rfl | ht
        · exact hrole
        · exact hplace t ht hne
    · -- A message of the assistant leaves it waiting.
      obtain ⟨turns, hcontents, hdialogue, hleads, hplace⟩ := ih hrest waiting
      have hsystem : m.isSystem = false := by simp [isSystem, hrole]
      refine ⟨⟨[], m⟩ :: turns, ?_, ?_, ?_, ?_⟩
      · rw [List.map_cons, ← hcontents, contents]
        simp [hrole, Turn.value, Turn.text]
      · simp [ofDialogue, hsystem, hdialogue]
      · simp [reachesUser, hsystem, hrole, kept, isLost, ofSystem, hleads]
      · intro t ht hne
        rcases List.mem_cons.mp ht with rfl | ht
        · exact absurd rfl hne
        · exact hplace t ht hne

/-- Where no message of the user comes before another of the system, what waits is not sent. -/
theorem contents_of_not_reachesUser {ms : List Message} (h : reachesUser ms = false)
    (waiting waiting' : String) : contents waiting ms = contents waiting' ms := by
  induction ms with
  | nil => rfl
  | cons m rest ih =>
    unfold contents
    by_cases hrole : m.role = "system"
    · simp [hrole]
    · unfold reachesUser at h
      simp [isSystem, hrole] at h
      simp [hrole, h.1, ih h.2]

/-- The messages that are lost leave no trace among the entries that Google takes. -/
theorem contents_kept (waiting : String) (ms : List Message) :
    contents waiting (kept .google ms) = contents waiting ms := by
  induction ms generalizing waiting with
  | nil => rfl
  | cons m rest ih =>
    unfold kept
    cases hlost : isLost .google m rest with
    | false =>
      simp only [Bool.false_eq_true, if_false]
      unfold contents
      simp only [ih]
    | true =>
      have hsystem : (m.role == "system") = true ∧ reachesUser rest = false := by
        simpa [isLost, isSystem] using hlost
      rw [if_pos rfl, ih, contents, if_pos hsystem.1]
      exact contents_of_not_reachesUser hsystem.2 _ _

/-! ## The three providers -/

/-- An argument that is there unless its value is null has a text as its name. -/
theorem named_unlessNull (name : String) (v : Value) :
    ((unlessNull name v).all fun e => e.1.comparedText?.isSome) = true := by cases v <;> rfl

/-- So has one that is there if its value counts as true. -/
theorem named_ifTruthy (name : String) (v : Value) :
    ((ifTruthy name v).all fun e => e.1.comparedText?.isSome) = true := by
  unfold ifTruthy
  split <;> rfl

/-- Extras of other names leave an argument as it is. -/
theorem get?_withExtras_of_none {extra : Entries} {name : String} (h : extra.get? name = none)
    (arguments : Arguments) :
    Entries.get? (withExtras arguments extra) name = Entries.get? arguments name := by
  induction extra generalizing arguments with
  | nil => rfl
  | cons e extra ih =>
    rw [Entries.get?_cons] at h
    split at h
    · cases h
    · next hname => rw [withExtras_cons, ih h, Entries.get?_put, if_neg hname]

/-- The text of the system is that of its last message. -/
theorem systemText_eq (ms : List Message) : systemText ms =
    ((ofSystem ms).getLast?.map fun m => Value.text m.content).getD .null := by
  have hfilter : (ms.filter fun m => m.role == "system") = ofSystem ms := rfl
  unfold systemText
  rw [hfilter]
  cases (ofSystem ms).getLast? <;> rfl

/-- That message is kept, so that it is the last one still. -/
theorem systemText_kept (ms : List Message) : systemText (kept .anthropic ms) = systemText ms := by
  have hlast : (ofSystem (kept .anthropic ms)).getLast? = (ofSystem ms).getLast? := by
    rw [ofSystem_kept_anthropic]
    cases (ofSystem ms).getLast? <;> rfl
  rw [systemText_eq, systemText_eq, hlast]

/-- The argument for Anthropic is the text of the message of the system that is kept. -/
theorem systemArgument_kept {ms : List Message} (hspoken : ∀ m ∈ ms, m.IsSpoken)
    (separator : String) : systemArgument separator (kept .anthropic ms) =
      if (systemText ms).truthy then some (systemText ms) else none := by
  unfold systemArgument
  rw [systemText_eq, ofSystem_kept_anthropic]
  cases hlast : (ofSystem ms).getLast? with
  | none => rfl
  | some m =>
    have hmem : m ∈ ms := List.mem_of_mem_filter (List.mem_of_getLast? hlast)
    have htruthy : (Value.text m.content).truthy = true := by
      simpa [Value.truthy] using (hspoken m hmem).content
    simp [htruthy]

end Request

namespace Client

open Message Request

variable {client : Client} {ms : List Message} {g : Generation} {streaming : Bool}
  {sent : Request.Arguments}

/-- The names of the arguments that carry messages, where an extra may replace them. -/
def messageNames : Provider → List String
  | .openai => ["messages"]
  | .anthropic => ["messages", "system"]
  | .google => []

/-- A request without extras is shaped. -/
theorem exists_request (client : Client) (ms : List Message) (streaming : Bool)
    (hextra : g.extra = []) : ∃ sent, client.request ms g streaming = .ok sent := by
  -- Without extras all arguments stand under texts.
  have hopenai : ((openai client.model ms g).all fun e => e.1.comparedText?.isSome) = true := by
    unfold openai
    rw [hextra]
    simp only [withExtras, List.foldl_nil, List.all_append, List.all_cons, named_unlessNull,
      named_ifTruthy]
    rfl
  have hanthropic : ((anthropic client.model client.defaultMaxTokens ms g).all
      fun e => e.1.comparedText?.isSome) = true := by
    unfold anthropic
    rw [hextra]
    simp only [withExtras, List.foldl_nil, List.all_append, List.all_cons, named_unlessNull,
      named_ifTruthy]
    rfl
  unfold request
  cases client.provider with
  | openai =>
    have hstream : Entries.has (openai client.model ms g) (.text "stream") = false := by
      rw [Entries.has_eq (s := "stream") _ rfl]
      simp [openai, hextra, withExtras, Entries.get?_append, Entries.get?_cons_text,
        get?_unlessNull, get?_ifTruthy]
    cases streaming with
    | false => exact ⟨_, if_pos hopenai⟩
    | true =>
      have hasked : (((.text "stream", .bool true) :: openai client.model ms g).all
          fun e => e.1.comparedText?.isSome) = true := hopenai
      simp only [hstream]
      exact ⟨_, if_pos hasked⟩
  | anthropic => exact ⟨_, if_pos hanthropic⟩
  | google => exact ⟨_, if_pos (by rw [hextra]; rfl)⟩

/-- The messages that are lost leave no trace in a request. -/
theorem request_kept (client : Client) (ms : List Message) (g : Generation) (streaming : Bool) :
    client.request (kept client.provider ms) g streaming = client.request ms g streaming := by
  unfold request
  cases client.provider with
  | openai => rw [kept_openai]
  | anthropic =>
    have hdialogue : (kept .anthropic ms).filter (fun m => m.role != "system") =
        ms.filter fun m => m.role != "system" := ofDialogue_kept .anthropic ms
    dsimp only
    unfold anthropic
    rw [hdialogue, systemText_kept]
  | google =>
    dsimp only
    unfold google
    rw [contents_kept]

/-- A request carries the messages that are not lost, unless an extra replaces them. -/
theorem carries_kept (hspoken : ∀ m ∈ ms, m.IsSpoken)
    (hextra : ∀ name ∈ messageNames client.provider, g.extra.get? name = none)
    (h : client.request ms g streaming = .ok sent) :
    Carries "\n\n" (kept client.provider ms) sent client.provider := by
  cases hprovider : client.provider with
  | openai =>
    rw [hprovider] at hextra
    rw [kept_openai]
    refine .openai ?_
    rw [(get?_openai hprovider h _).resolve_right fun hstream => absurd hstream.1 (by decide)]
    unfold openai
    rw [get?_withExtras_of_none (hextra _ List.mem_cons_self)]
    simp [Entries.get?_cons_text]
  | anthropic =>
    rw [hprovider] at hextra
    have hmessages := hextra "messages" List.mem_cons_self
    have hsystem := hextra "system" (List.mem_cons_of_mem _ List.mem_cons_self)
    have hdialogue : (ms.filter fun m => m.role != "system") = ofDialogue ms := rfl
    rw [request_anthropic hprovider h]
    unfold anthropic
    refine .anthropic ?_ ?_
    · rw [get?_withExtras_of_none hmessages, ofDialogue_kept, hdialogue]
      simp [Entries.get?_cons_text]
    · rw [get?_withExtras_of_none hsystem, systemArgument_kept hspoken]
      simp [Entries.get?_append, Entries.get?_cons_text, get?_ifTruthy, get?_unlessNull]
  | google =>
    obtain ⟨-, rfl⟩ := request_google hprovider h
    obtain ⟨turns, hcontents, hdialogue, hleads, hplace⟩ := exists_turns hspoken none
    refine .google turns ?_ ?_ ?_ hplace
    · simpa [Entries.get?_cons_text, waitingText] using hcontents
    · rw [hdialogue, ofDialogue_kept]
    · simpa using hleads

/-- A request for messages is shaped if there are no extras. Where it is shaped and no extra takes
the place of the messages, it carries those that are not lost, with all of the dialogue, and the
lost ones leave no trace in it. So it carries all messages just if none is lost where it stands. -/
theorem request_carries (client : Client) {ms : List Message} (hspoken : ∀ m ∈ ms, m.IsSpoken)
    (g : Generation) (streaming : Bool) :
    (g.extra = [] → ∃ sent, client.request ms g streaming = .ok sent) ∧
    (∀ sent, client.request ms g streaming = .ok sent →
      (∀ name ∈ messageNames client.provider, g.extra.get? name = none) →
      Carries "\n\n" (kept client.provider ms) sent client.provider) ∧
    client.request (kept client.provider ms) g streaming = client.request ms g streaming ∧
    ofDialogue (kept client.provider ms) = ofDialogue ms ∧
    (kept client.provider ms = ms ↔ ∀ before m after, ms = before ++ m :: after →
      isLost client.provider m after = false) :=
  ⟨exists_request client ms streaming, fun _ h hextra => carries_kept hspoken hextra h,
    request_kept client ms g streaming, ofDialogue_kept client.provider ms,
    kept_eq_self_iff client.provider ms⟩

/-- A text of the system at the front and one before the second message of the user are both carried
for Google. -/
theorem request_carries_led :
    let ms : List Message :=
      [⟨"system", "a"⟩, ⟨"user", "b"⟩, ⟨"assistant", "c"⟩, ⟨"system", "d"⟩, ⟨"user", "e"⟩]
    (∀ m ∈ ms, m.IsSpoken) ∧ ∃ sent,
      (fresh .google).request ms Generation.unset false = .ok sent ∧
      Carries "\n\n" ms sent .google := by
  intro ms
  have hspoken : ∀ m ∈ ms, m.IsSpoken := by
    intro m hm
    constructor <;> revert m <;> decide
  obtain ⟨hshaped, hcarries, -⟩ := request_carries (fresh .google) hspoken .unset false
  obtain ⟨sent, hsent⟩ := hshaped rfl
  exact ⟨hspoken, sent, hsent, hcarries sent hsent nofun⟩

/-- Where Google is sent one entry that carries messages, all texts of the system are in front of
it. -/
theorem text_of_carries {separator text content : String}
    (hcontents : Entries.get? sent "contents" = some (.list [part "user" text]))
    (hdialogue : ofDialogue ms = [.user content]) (h : Carries separator ms sent .google) :
    text = Turn.text separator ⟨ofSystem ms, .user content⟩ := by
  cases h with
  | google turns hturns hmessages hleads _ =>
    obtain ⟨⟨leads, message⟩, rfl, rfl⟩ := List.map_eq_singleton_iff.mp (hmessages.trans hdialogue)
    obtain rfl : leads = ofSystem ms := by simpa using hleads
    have hvalue := Option.some.inj (hcontents.symm.trans hturns)
    simpa [Turn.value, part, Message.user] using hvalue

/-- Of two messages of the system in front of one of the user, what is sent to Anthropic and to
Google does not carry the first, whatever the separator is; nor does what is sent to Google carry
one that comes last. -/
theorem not_carries :
    let ms : List Message := [⟨"system", "a"⟩, ⟨"system", "b"⟩, ⟨"user", "c"⟩]
    let last : List Message := [⟨"user", "c"⟩, ⟨"system", "a"⟩]
    (∃ sent, (fresh .anthropic).request ms .unset false = .ok sent ∧
      ∀ separator, ¬Carries separator ms sent .anthropic) ∧
    (∃ sent, (fresh .google).request ms .unset false = .ok sent ∧
      ∀ separator, ¬Carries separator ms sent .google) ∧
    ∃ sent, (fresh .google).request last .unset false = .ok sent ∧
      ∀ separator, ¬Carries separator last sent .google := by
  intro ms last
  refine ⟨⟨_, rfl, fun separator h => ?_⟩, ⟨_, rfl, fun separator h => ?_⟩,
    ⟨_, rfl, fun separator h => ?_⟩⟩
  · cases h with
    | anthropic _ hsystem =>
      have htext : "b" = separator.intercalate ["a", "b"] :=
        Value.text.inj (Option.some.inj hsystem)
      have hchars := congrArg String.toList htext
      simp at hchars
  · have htext : "b\n\nc" = Turn.text separator ⟨ofSystem ms, .user "c"⟩ :=
      text_of_carries rfl rfl h
    have hchars := congrArg String.toList htext
    simp [Turn.text, ofSystem, ms, isSystem] at hchars
  · have htext : "c" = Turn.text separator ⟨ofSystem last, .user "c"⟩ := text_of_carries rfl rfl h
    have hchars := congrArg String.toList htext
    simp [Turn.text, ofSystem, last, isSystem] at hchars

end Client

end PromptContract
