import PromptContract.Prediction
import PromptContract.Proofs.Delivery.Run
import PromptContract.Proofs.Failure

/-!
# Only checks reject

A map is rejected (`ValidationError`) where it is checked against a contract, and nowhere else.
Everything that a call goes through besides may fail, but not so: reading the contract, the options
and the settings, writing the prompt, making a client, reading the parameters of the model and the
window (`Contract.unrejected_ofValue`, `Options.unrejected_resolve`, `Routing.unrejected_client` and
others, each from those of its steps). Nor do reading a reply and a streaming session. So a delivery
has been rejected only if its final map was, or if the reply broke off so: every move keeps that
(`Blames.step`, `Blames.run`).
-/

namespace PromptContract

open Reply

/-! ## Values -/

/-- Nothing that stands in the way of writing a value is a rejection. -/
theorem Obstacle.failure_ne_rejected (found : Obstacle) (r : Rejection) :
    found.failure ≠ .rejected r := by
  cases found <;> nofun

namespace Value

/-- Going through an object of expressions rejects nothing. -/
theorem unrejected_objectItems (o : ObjectOf Value) : Unrejected (objectItems o) := by
  unfold objectItems
  split <;> simp

/-- Nor does going through a value. -/
theorem unrejected_items (v : Value) : Unrejected v.items := by
  unfold items
  split <;> first | simp | exact unrejected_objectItems _

/-- Nor does reading an entry of a map. -/
theorem unrejected_pair (v : Value) : Unrejected v.pair := by
  refine v.unrejected_items.bind fun items => ?_
  split
  · split <;> simp
  · simp

/-- Nor does reading a map. -/
theorem unrejected_entries (v : Value) : Unrejected v.entries := by
  unfold entries
  split
  · simp
  · split
    · simp
    · exact (unrejected_items _).bind fun items =>
        (Unrejected.mapM unrejected_pair items).bind fun _ => .pure _

/-- That a value lacks an operation is no rejection. -/
theorem notOf_ne_rejected (types : List BuiltinType) (v : Value) (r : Rejection) :
    v.notOf types ≠ .rejected r := by
  fun_induction notOf types v with
  | case5 _ _ ih => exact ih
  | _ => nofun

/-- So reading the entries of what must be a map rejects nothing. -/
theorem unrejected_mapEntries (v : Value) : Unrejected v.mapEntries := by
  unfold mapEntries entriesOfMap
  split
  · split
    · simp
    · exact (Unrejected.error_iff _).mpr (notOf_ne_rejected _ _)
  · simp

/-- Nor does reading an integer. -/
theorem unrejected_toInteger (v : Value) : Unrejected v.toInteger := by
  unfold toInteger
  split <;> first | simp | (split <;> simp)

/-- Nor does comparing a number. -/
theorem unrejected_isBelow (v : Value) (bound : Int) : Unrejected (v.isBelow bound) := by
  unfold isBelow
  split <;> simp

end Value

/-! ## Contracts -/

/-- Making a field rejects nothing. -/
theorem Field.unrejected_make (name type description required spec : Value) :
    Unrejected (Field.make name type description required spec) := by
  unfold Field.make
  split
  · split <;> simp
  · simp

namespace Declaration

/-- Nor does reading an entry of a field list. -/
theorem unrejected_fieldOfEntry (side : Side) (v : Value) : Unrejected (fieldOfEntry side v) := by
  unfold fieldOfEntry Field.ofEntries
  split
  · simp
  · split
    · exact Field.unrejected_make _ _ _ _ _
    · simp
  · simp

/-- Nor does reading a field list. -/
theorem unrejected_readFields (side : Side) (seen : List String) (entries : List Value) :
    Unrejected (readFields side seen entries) := by
  induction entries generalizing seen with
  | nil => exact .ok []
  | cons entry rest ih =>
    refine (unrejected_fieldOfEntry side entry).bind fun f => ?_
    cases seen.contains f.name.text with
    | true => exact (Unrejected.error_iff _).mpr nofun
    | false => exact (ih (f.name.text :: seen)).bind fun _ => .pure _

/-- Nor does reading a declaration. -/
theorem unrejected_ofEntries (es : Entries) : Unrejected (ofEntries es) := by
  have hside (side : Side) (v : Value) : Unrejected (fieldsOfSide side v) := by
    unfold fieldsOfSide
    split
    · simp
    · exact (Value.unrejected_items _).bind fun items =>
        (unrejected_readFields side [] items).bind fun _ => .pure _
  exact (hside _ _).bind fun _ => (hside _ _).bind fun _ => .pure _

end Declaration

namespace Schema

/-- Reading the properties of a schema rejects nothing. -/
theorem unrejected_properties (shape : Shape) : Unrejected shape.properties := by
  cases shape with
  | record name fields => exact .ok _
  | fieldMap schema => exact .ok _
  | json schema =>
    refine (Value.unrejected_items _).bind fun required => ?_
    cases required.all Value.isKey with
    | false => exact (Unrejected.error_iff _).mpr nofun
    | true =>
      refine Unrejected.bind ?_ fun _ => .pure _
      unfold Value.entriesOfMap
      split
      · simp
      · exact (Unrejected.error_iff _).mpr (Value.notOf_ne_rejected _ _)

/-- Nor does reading its fields. -/
theorem unrejected_fields (schema : Value) : Unrejected (fields schema) := by
  have hshape : Unrejected (Shape.of schema) := by
    unfold Shape.of
    split <;> simp
  unfold fields
  split
  · simp
  · exact hshape.bind fun shape => (unrejected_properties shape).bind fun properties =>
      (Unrejected.mapM (fun _ => Field.unrejected_make _ _ _ _ _) properties).bind fun _ => .pure _

end Schema

/-- Reading a contract rejects nothing. -/
theorem Contract.unrejected_ofValue (v : Value) : Unrejected (Contract.ofValue v) := by
  have hside (fields : Option (List Field)) (schema : Option Value) :
      Unrejected (settleSide fields schema) := by
    unfold settleSide
    split
    · simp
    · exact (Schema.unrejected_fields _).bind fun _ => .pure _
    · simp
  have hdeclaration (d : Declaration) : Unrejected (ofDeclaration d) :=
    (hside _ _).bind fun _ => (hside _ _).bind fun _ => .pure _
  unfold Contract.ofValue
  split
  · simp
  · exact hdeclaration _
  · exact (Declaration.unrejected_ofEntries _).bind hdeclaration
  · simp

/-! ## Settings and options -/

namespace Settings

/-- Making settings rejects nothing. -/
theorem unrejected_make (env : Environment) (models streaming : Entries)
    (validate : Option Value) : Unrejected (make env models streaming validate) :=
  .ite (.error nofun) ((Value.unrejected_toInteger _).bind fun _ => .pure _)

/-- Nor does looking up the settings about models. -/
theorem unrejected_modelPart (s : Settings) : Unrejected s.modelPart := by
  unfold modelPart
  split <;> simp

/-- Nor does looking up the settings about streaming. -/
theorem unrejected_streamingPart (s : Settings) : Unrejected s.streamingPart := by
  unfold streamingPart
  split <;> simp

end Settings

/-- Reading the shared settings rejects nothing. -/
theorem Context.unrejected_settings (c : Context) : Unrejected c.settings.1 := by
  have hread := Settings.unrejected_make c.env [] [] none
  unfold Context.settings Settings.ofEnvironment
  split
  · simp
  · split
    · simp
    · next e he =>
      rw [he] at hread
      exact hread

namespace Options

/-- Reading a window rejects nothing. -/
theorem unrejected_debounceOf (reach : Reach) (v : Value) : Unrejected (debounceOf reach v) := by
  have hinteger := v.unrejected_toInteger
  have hrefusal (v : Value) {why : Failure} (hwhy : ∀ r, why ≠ .rejected r) :
      Unrejected (.error (refusal reach v why) : Except Failure Int) := by
    unfold refusal
    cases v.obstacle reach [windowPlace] with
    | none => exact .error hwhy
    | some found => exact .error found.failure_ne_rejected
  unfold debounceOf
  split
  · exact .ite (hrefusal _ nofun) (.ok _)
  · exact hrefusal _ nofun
  · exact hrefusal _ nofun
  · next e _ _ he =>
    rw [he] at hinteger
    exact (Unrejected.error_iff _).mpr ((Unrejected.error_iff _).mp hinteger)

/-- Nor does filling in options. -/
theorem unrejected_fill (reach : Reach) (es : Entries) (s : Settings) :
    Unrejected (fill reach es s) := by
  have hmodel (debounce : Int) : Unrejected (do
      let model ← if (es.getD "model").truthy then pure (es.getD "model")
        else do pure (← s.modelPart).defaultModel
      return ({
        model
        validate := .bool (((es.getD "validate").present?).getD s.validateByDefault).truthy
        debounceMs := .int debounce
        apiKey := es.getD "api_key"
        providerOptions := .map (es.filter fun e => !ownNames.any e.1.isText) } : Options)) :=
    .ite (.pure _) (s.unrejected_modelPart.bind fun _ => .pure _)
  unfold fill
  simp only
  split
  · exact (unrejected_debounceOf _ _).bind hmodel
  · exact s.unrejected_streamingPart.bind fun _ => (unrejected_debounceOf _ _).bind hmodel

/-- Nor does resolving them. -/
theorem unrejected_resolve (c : Context) (v : Value) : Unrejected (resolve c v none).1 := by
  have hsettings := c.unrejected_settings
  unfold resolve Context.settingsOr
  split
  · simp
  · revert hsettings
    rcases c.settings with ⟨_ | s, c'⟩
    · exact fun h => .error ((Unrejected.error_iff _).mp h)
    · exact fun _ => (Value.unrejected_entries _).bind fun es => unrejected_fill _ es s

end Options

/-! ## Clients -/

/-- Making a client rejects nothing. -/
theorem Client.unrejected_make (sdk : Sdk) (c : Context) (provider : Provider) (es : Entries) :
    Unrejected (Client.make sdk c provider es) := by
  have hconnect (key model address : Value) :
      Unrejected ((sdk.connect c.env provider key model address).mapError .raised) := by
    cases sdk.connect c.env provider key model address with
    | error kind => exact .error nofun
    | ok address => exact .ok address
  refine .ite (.error nofun) (.ite (.error nofun) ((hconnect _ _ _).bind fun address => ?_))
  split
  · exact .error (Obstacle.failure_ne_rejected _)
  · exact .pure _

/-- Looking up a key rejects nothing. -/
theorem Settings.unrejected_keyFor (s : Settings) (provider : Provider) :
    Unrejected (s.keyFor provider) :=
  s.unrejected_modelPart.bind fun _ => .ite (.error nofun) (.pure _)

namespace Routing

/-- Routing under settings rejects nothing. -/
theorem unrejected_clientUnder (sdk : Sdk) (c : Context) (s : Settings) (model key : Value) :
    Unrejected (clientUnder sdk c s model key) := by
  have hprovider : Unrejected (providerOfValue model) := by
    unfold providerOfValue
    split
    · simp
    · exact .error (Value.notOf_ne_rejected _ _)
  have harguments (provider : Provider) : Unrejected (argumentsFor s provider) := by
    cases provider with
    | google => exact .ok _
    | _ => exact s.unrejected_modelPart.bind fun _ => .pure _
  have hmake (provider : Provider) (key : Value) : Unrejected (do
      if !key.truthy then throw (.noKeyConfigured provider model)
      let more ← argumentsFor s provider
      Client.make sdk c provider ((.text "api_key", key) :: (.text "model", model) :: more)) :=
    .ite (.error nofun) ((harguments provider).bind fun _ => Client.unrejected_make _ _ _ _)
  exact hprovider.bind fun provider => .ite (hmake provider key)
    ((s.unrejected_keyFor provider).bind (hmake provider))

/-- Nor does routing under the shared ones. -/
theorem unrejected_client (sdk : Sdk) (c : Context) (model key : Value) :
    Unrejected (client sdk c model key none).1 := by
  have hsettings := c.unrejected_settings
  unfold client Context.settingsOr
  revert hsettings
  rcases c.settings with ⟨_ | s, c'⟩
  · exact fun h => .error ((Unrejected.error_iff _).mp h)
  · exact fun _ => unrejected_clientUnder _ _ _ _ _

end Routing

/-! ## Prompts and generation options -/

namespace Generation

/-- Reading generation options rejects nothing. -/
theorem unrejected_ofOptions (v : Value) : Unrejected (ofOptions v) := by
  have hstops (v : Value) : Unrejected (stopsOf v) := by
    unfold stopsOf
    split
    · simp
    · simp
    · exact .ite (Value.unrejected_items _) (.ok _)
  refine v.unrejected_mapEntries.bind fun es => Unrejected.foldlM (fun g e => ?_) unset es
  unfold set
  split
  case h_6 => exact (hstops _).bind fun _ => .pure _
  all_goals simp

end Generation

namespace Window

/-- Reading an integer number of milliseconds rejects nothing. -/
theorem unrejected_whole (ms : Int) : Unrejected (whole ms) := by
  unfold whole
  cases Binary64.ofInt? ms with
  | none => exact .error nofun
  | some x => exact .ok x

/-- Nor does reading a window as a span of time. -/
theorem unrejected_exactly (v : Value) : Unrejected (exactly v) := by
  have hrefusal (r : Rejection) : refusal v ≠ .rejected r := by
    unfold refusal
    split <;> nofun
  have hms : Unrejected (milliseconds v) := by
    refine (v.unrejected_isBelow 0).bind fun below => .ite (.error hrefusal) ?_
    split
    · exact unrejected_whole _
    · exact .pure _
    · exact .error nofun
  unfold exactly
  refine hms.bind fun ms => ?_
  cases ms <;> exact .pure _

end Window

/-- Writing a prompt rejects nothing. -/
theorem Prompt.unrejected_written (reach : Reach) (c : Contract) (values : Entries) :
    Unrejected (Prompt.written reach c values) := by
  cases hfound : obstacle reach c (some values) with
  | none => exact written_of_none hfound ▸ .ok _
  | some found => exact written_of_some hfound ▸ .error (Obstacle.failure_ne_rejected found)

/-! ## Replies -/

/-- Reading the fields of a reply rejects nothing. -/
theorem Reply.unrejected_resolve (s : Scanner) (hold : Bool) (fields : List Field) :
    Unrejected (resolve s hold fields) := fun r h => by
  cases eq_unreadable_of_resolve h

/-- Nor does parsing it. -/
theorem Reply.unrejected_parse (reply : List Char) (fields : List Field) :
    Unrejected (parse reply fields) := fun r h => by
  cases eq_unreadable_of_parse h

namespace Session

variable {τ : Type}

/-- A session that ends rejects nothing. -/
theorem unrejected_finish (s : Session τ) (now : τ) : Unrejected (s.finish (.ok now)).1 := by
  by_cases hdone : s.state = .done
  · rw [finish_of_done hdone]
    exact .ok _
  · rw [finish_ok hdone]
    exact (unrejected_resolve _ _ _).map _

/-- Nor does one that takes a piece. -/
theorem unrejected_feed [Sub τ] [OfNat τ 0] [LT τ] [DecidableLT τ] (s : Session τ)
    (piece : List Char) (now sentAt : τ) :
    Unrejected (s.feed piece (.ok now) (.ok sentAt)).1 := by
  by_cases hdone : s.state = .done
  · rw [feed_of_done hdone]
    exact .error nofun
  · rcases s.feed_cases piece (.ok now) (.ok sentAt) hdone with ⟨e, hresolve, hfeed⟩ | ⟨_, -, hfeed⟩
    · rw [hfeed, eq_unreadable_of_resolve hresolve]
      exact .error nofun
    · obtain ⟨sent, hsent⟩ := poll_ok _ now sentAt
      rw [hfeed, hsent]
      exact .ok sent

end Session

namespace Delivery

variable {τ : Type} {check : Outputs → Except Failure Entries} {failure : Option Failure}
  {d : Delivery τ}

/-- A delivery that has been rejected was so by the check of the final map, or the reply broke off
so. -/
structure Blames (check : Outputs → Except Failure Entries) (failure : Option Failure)
    (d : Delivery τ) : Prop where
  /-- The reply ends as told. -/
  ending : ∀ e, Item.ended e ∈ d.queue ++ d.toCome → e = failure
  rejected : ∀ r, d.result = some (.error (.rejected r)) →
    failure = some (.rejected r) ∨ ∃ m, check m = .error (.rejected r)

/-- A delivery that starts has not been rejected. -/
theorem blames_start (check : Outputs → Except Failure Entries) (pieces : List (List Char))
    (failure : Option Failure) (room : Option Nat) (session : Session τ) :
    Blames check failure (start pieces failure room session) where
  ending e he := by simpa [start] using he
  rejected := nofun

/-- Putting an item into the queue changes nothing about it. -/
theorem Blames.put (h : Blames check failure d) : Blames check failure d.put := by
  rcases d.put_cases with hput | ⟨item, rest, htoCome, hput⟩
  · rw [hput]
    exact h
  · rw [hput]
    refine ⟨fun e he => h.ending e ?_, h.rejected⟩
    rw [htoCome]
    simpa using he

/-- A step of the session that rejects nothing changes nothing about it. -/
theorem Blames.take (h : Blames check failure d) {step : Session.Step τ}
    (hstep : Unrejected step.1) : Blames check failure (d.take step) := by
  obtain ⟨sent, session⟩ := step
  cases sent with
  | ok sent => exact ⟨h.ending, h.rejected⟩
  | error why =>
    refine ⟨h.ending, fun r hr => absurd ?_ ((Unrejected.error_iff why).mp hstep r)⟩
    exact Except.error.inj (Option.some.inj hr)

/-- Where concluding is rejected, it is so by the check of the final map. -/
theorem rejected_of_conclude {sentAt : τ} {r : Rejection}
    (hr : (conclude check d sentAt).result = some (.error (.rejected r))) :
    ∃ m, check m = .error (.rejected r) := by
  have hends := endsAs_conclude check d sentAt
  cases hfinal : (d.session.finish (.ok sentAt)).1 with
  | error why =>
    -- Reading the final map rejects nothing.
    rw [hfinal] at hends
    have hwhy := Except.error.inj (Option.some.inj (hends.symm.trans hr))
    exact absurd (hwhy ▸ hfinal) (d.session.unrejected_finish sentAt r)
  | ok m =>
    refine ⟨m, ?_⟩
    rw [hfinal] at hends
    change EndsAs _ _ (check m) at hends
    cases hcheck : check m with
    | ok shown =>
      rw [hcheck] at hends
      cases hends.1.symm.trans hr
    | error why =>
      rw [hcheck] at hends
      cases hends.symm.trans hr
      rfl

variable [Sub τ] [OfNat τ 0] [LT τ] [DecidableLT τ]

/-- Taking an item in may end the delivery, but changes nothing about it either: the final map is
rejected by its check, and a reply that breaks off is the one that is told of. -/
theorem Blames.receive (h : Blames check failure d) (now sentAt : τ) {item : Item}
    (hitem : ∀ e, item = .ended e → e = failure) :
    Blames check failure (d.receive check now sentAt item) := by
  cases item with
  | piece text =>
    have htaken : Blames check failure { d with taken := d.taken ++ [text] } :=
      ⟨h.ending, h.rejected⟩
    exact htaken.take (d.session.unrejected_feed text now sentAt)
  | ended e =>
    obtain ⟨hqueue, htoCome, -⟩ := d.items_receive check now sentAt (.ended e)
    refine ⟨by rw [hqueue, htoCome]; exact h.ending, fun r hr => ?_⟩
    cases e with
    -- The reply broke off, and the delivery has failed as it did.
    | some why =>
      left
      rw [← hitem _ rfl, Except.error.inj (Option.some.inj hr)]
    -- The reply has ended, and the final map is read and checked.
    | none => exact .inr (rejected_of_conclude hr)

/-- Every move leaves it so. -/
theorem Blames.step (h : Blames check failure d) (m : Move τ) :
    Blames check failure (d.step check m) := by
  cases m with
  | put => exact h.put
  | wake now sentAt =>
    cases hover : d.result with
    | some result =>
      simp only [Delivery.step, hover]
      exact h
    | none =>
      obtain ⟨sent, hsent⟩ := d.session.poll_ok now sentAt
      simp only [Delivery.step, hover]
      exact h.take (by rw [hsent]; exact .ok sent)
  | take now sentAt =>
    cases hover : d.result with
    | some result =>
      simp only [Delivery.step, hover]
      exact h
    | none =>
      cases hqueue : d.queue with
      | nil =>
        simp only [Delivery.step, hover, hqueue]
        exact h
      | cons item rest =>
        have hending := h.ending
        rw [hqueue] at hending
        have hrest : Blames check failure { d with queue := rest } :=
          ⟨fun e he => hending e (List.mem_cons_of_mem _ he), h.rejected⟩
        rw [step_take hover hqueue]
        exact hrest.receive now sentAt fun e he => hending e (he ▸ List.mem_cons_self)

/-- So does a run of moves. -/
theorem Blames.run (h : Blames check failure d) (moves : List (Move τ)) :
    Blames check failure (d.run check moves) := by
  induction moves generalizing d with
  | nil => exact h
  | cons m moves ih => exact ih (h.step m)

end Delivery

end PromptContract
