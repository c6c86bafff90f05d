import PromptContract.Provider.Client

/-!
# What a request for a whole reply comes to

A client is asked for a whole reply (`generate`) with what the provider answers. All that this can
come to is said once (`Generated`, `generated`), with the client behind it. What is sent, what stays
of the client and what it counts follow by these cases.
-/

namespace PromptContract.Client

/-- What a request for a whole reply comes to, and the client behind it: it is not shaped, the call
fails, the answer breaks off before its usage is read, or what is read counts, whether there is a
response or not. -/
inductive Generated (c : Client) (messages : List Message) (g : Generation)
    (answer : Request.Arguments → Answer Value) : Attempt Response × Client → Prop
  | unshaped {why : Failure} (h : c.request messages g false = .error why) :
    Generated c messages g answer (⟨.error why, none⟩, c)
  | failed {sent : Request.Arguments} {text : String} (h : c.request messages g false = .ok sent)
      (hanswer : answer sent = .failed text) :
    Generated c messages g answer (⟨.error (.callFailed text), some sent⟩, c)
  | unread {sent : Request.Arguments} {document : Value} {why : Failure}
      (h : c.request messages g false = .ok sent) (hanswer : answer sent = .answered document)
      (hread : read c.provider document = .error why) :
    Generated c messages g answer (⟨.error why, some sent⟩, c)
  | counted {sent : Request.Arguments} {document : Value} {reading : Reading}
      {response : Except Failure Response} (h : c.request messages g false = .ok sent)
      (hanswer : answer sent = .answered document)
      (hread : read c.provider document = .ok reading)
      (hresponse : ∀ r, response = .ok r → r.usage = reading.usage) :
    Generated c messages g answer (⟨response, some sent⟩, c.track reading.usage)

/-- A request for a whole reply comes to one of these. -/
theorem generated (c : Client) (messages : List Message) (g : Generation)
    (answer : Request.Arguments → Answer Value) :
    Generated c messages g answer (c.generate messages g answer) := by
  unfold generate
  cases hrequest : c.request messages g false with
  | error why => exact .unshaped hrequest
  | ok sent =>
    cases hanswer : answer sent with
    | failed text =>
      simp only [hanswer]
      exact .failed hrequest hanswer
    | answered document =>
      cases hread : read c.provider document with
      | error why =>
        simp only [hanswer, hread]
        exact .unread hrequest hanswer hread
      | ok reading =>
        simp only [hanswer, hread]
        refine .counted hrequest hanswer hread fun r hr => ?_
        generalize (if reading.usage.total.toValue.isWritable = true then reading.rest
          else .error .unreadable) = rest at hr
        cases rest with
        | error why => cases hr
        | ok last =>
          obtain rfl := Except.ok.inj hr
          rfl

/-- A client stays one for its provider and its model, whatever it is answered. -/
theorem identity_generate (client : Client) (messages : List Message) (g : Generation)
    (answer : Request.Arguments → Answer Value) :
    (client.generate messages g answer).2.provider = client.provider ∧
      (client.generate messages g answer).2.model = client.model := by
  have hgenerated := generated client messages g answer
  generalize client.generate messages g answer = outcome at hgenerated ⊢
  cases hgenerated with
  | unshaped | failed | unread | counted => exact ⟨rfl, rfl⟩

end PromptContract.Client
