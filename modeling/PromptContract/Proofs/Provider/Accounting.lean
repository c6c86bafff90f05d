import Mathlib.Data.List.DropRight
import PromptContract.Libraries.Usual
import PromptContract.Proofs.Failure
import PromptContract.Proofs.Provider.Generated

/-!
# What a client has used

A client adds up the usage of its replies (`_track_usage`) until it is told to start over
(`reset_usage`). A history of a client is made of requests for whole replies, streams, which may be
closed or break off early, and resets (`Use`). Behind every use of a client that was just made, its
usage is the sum of that of the responses since the last reset, field by field, and the count of its
requests is the number of these responses (`usage_accounted`). This asks of the requests that are
answered only that their answers are read to the end: usage counts before the last parts of an
answer are read, so an answer that breaks off there has been counted without a response.

What one use does to a client that has counted some responses is said once (`HasCounted.use`), and
what it comes to for a whole reply is taken from the cases of `Generated`. Counts that are integers
add up without rounding, which carries the equation between the total and its two parts from each
response over to the sum (`Usage.total_sumOf`).
-/

namespace PromptContract

/-! ## Sums of counts -/

namespace Count

/-- The sum of a row of counts, from the first to the last. -/
def sumOf (ns : List Count) : Count := ns.foldl (· + ·) 0

/-- Whether a count is an integer, as a truth value is. -/
def IsInteger (n : Count) : Prop := ∃ k, n.number = .int k

/-- The integer that a count is, and nothing in the place of any other. -/
def integer : Count → Int
  | .truth b => boolInt b
  | .whole n => n
  | .real _ => 0

/-- The sum of the integers that a row of counts are. -/
def integerSum (ns : List Count) : Int := ns.foldl (fun k n => k + n.integer) 0

/-- One more count is added to the sum of the others. -/
theorem sumOf_concat (ns : List Count) (n : Count) : sumOf (ns ++ [n]) = sumOf ns + n := by
  unfold sumOf
  rw [List.foldl_append]
  rfl

/-- So is one more integer. -/
theorem integerSum_concat (ns : List Count) (n : Count) :
    integerSum (ns ++ [n]) = integerSum ns + n.integer := by
  unfold integerSum
  rw [List.foldl_append]
  rfl

/-- The number that an integer count is. -/
theorem IsInteger.number_eq {n : Count} (h : n.IsInteger) : n.number = .int n.integer := by
  obtain ⟨k, hk⟩ := h
  cases n with
  | truth b => rfl
  | whole m => rfl
  | real x => cases hk

/-- Integer counts are added without rounding. -/
theorem IsInteger.add_eq {m n : Count} (hm : m.IsInteger) (hn : n.IsInteger) :
    m + n = .whole (m.integer + n.integer) := by
  show sum m.number n.number = _
  rw [hm.number_eq, hn.number_eq]
  rfl

/-- So is a row of them. -/
theorem sumOf_eq_whole {ns : List Count} (h : ∀ n ∈ ns, n.IsInteger) :
    sumOf ns = .whole (integerSum ns) := by
  induction ns using List.reverseRecOn with
  | nil => rfl
  | append_singleton ns n ih =>
    have hsum := ih fun m hm => h m (List.mem_append_left _ hm)
    have hwhole : (sumOf ns).IsInteger := ⟨_, by rw [hsum]; rfl⟩
    have hlast : n.IsInteger := h n (List.mem_append_right _ List.mem_cons_self)
    rw [sumOf_concat, hwhole.add_eq hlast, hsum, integerSum_concat]
    rfl

end Count

namespace Usage

/-- The sum of a row of usages, field by field. -/
def sumOf (us : List Usage) : Usage :=
  ⟨Count.sumOf (us.map prompt), Count.sumOf (us.map completion), Count.sumOf (us.map total)⟩

/-- Whether all counts of a usage are integers. -/
structure IsInteger (u : Usage) : Prop where
  prompt : u.prompt.IsInteger
  completion : u.completion.IsInteger
  total : u.total.IsInteger

/-- One more usage is added to the sum of the others. -/
theorem sumOf_concat (us : List Usage) (u : Usage) : sumOf (us ++ [u]) = sumOf us + u := by
  unfold sumOf
  simp only [List.map_append, List.map_cons, List.map_nil, Count.sumOf_concat]
  rfl

/-- Integer usages add up to the integer sums of their fields. -/
theorem sumOf_eq_whole {us : List Usage} (h : ∀ u ∈ us, u.IsInteger) :
    sumOf us = ⟨.whole (Count.integerSum (us.map prompt)),
      .whole (Count.integerSum (us.map completion)), .whole (Count.integerSum (us.map total))⟩ := by
  unfold sumOf
  rw [Count.sumOf_eq_whole (List.forall_mem_map.mpr fun u hu => (h u hu).prompt),
    Count.sumOf_eq_whole (List.forall_mem_map.mpr fun u hu => (h u hu).completion),
    Count.sumOf_eq_whole (List.forall_mem_map.mpr fun u hu => (h u hu).total)]

/-- Where the total of each integer usage is the sum of its parts, that of their sum is. -/
theorem total_sumOf {us : List Usage} (h : ∀ u ∈ us, u.IsInteger)
    (hparts : ∀ u ∈ us, u.total = u.prompt + u.completion) :
    (sumOf us).total = (sumOf us).prompt + (sumOf us).completion := by
  have hsum : Count.integerSum (us.map total) =
      Count.integerSum (us.map prompt) + Count.integerSum (us.map completion) := by
    induction us using List.reverseRecOn with
    | nil => rfl
    | append_singleton us u ih =>
      have hrest := ih (fun v hv => h v (List.mem_append_left _ hv))
        fun v hv => hparts v (List.mem_append_left _ hv)
      have hu : u ∈ us ++ [u] := List.mem_append_right _ List.mem_cons_self
      have htotal : u.total.integer = u.prompt.integer + u.completion.integer := by
        rw [hparts u hu, (h u hu).prompt.add_eq (h u hu).completion]
        rfl
      simp only [List.map_append, List.map_cons, List.map_nil, Count.integerSum_concat]
      omega
  rw [sumOf_eq_whole h]
  show Count.whole _ = .whole _ + .whole _
  rw [Count.whole_add_whole, hsum]

end Usage

/-! ## Uses of a client -/

/-- What of a stream is seen by a caller who takes no more than a number of pieces. -/
def Streamed.upTo (s : Streamed) (wanted : Nat) : Streamed :=
  if wanted ≤ s.pieces.length then { s with pieces := s.pieces.take wanted, failure := none } else s

/-- An answer of which no more than a number of pieces arrive. -/
def Answer.upTo (arriving : Nat) : Answer (List Value) → Answer (List Value)
  | .failed text => .failed text
  | .answered pieces => .answered (pieces.take arriving)

namespace Client

/-- How a stream goes on: to its end, until the caller closes it behind a number of pieces, or until
the call fails with a text of its own behind the pieces that arrived. -/
inductive Course
  | whole
  | closed (wanted : Nat)
  | broken (arriving : Nat) (text : String)

/-- A use of a client, with what the provider answers. -/
inductive Use
  | generate (messages : List Message) (g : Generation)
      (answer : Request.Arguments → Answer Value)
  | stream (messages : List Message) (g : Generation)
      (answer : Request.Arguments → Answer (List Value)) (course : Course)
  | reset

/-- What a use came to. -/
inductive Came
  | replied (attempt : Attempt Response)
  | streamed (attempt : Attempt Streamed)
  | told (usage : Usage)

namespace Came

/-- Whether a use started over with counting. -/
def isReset : Came → Bool
  | .told _ => true
  | .replied _ | .streamed _ => false

/-- The response that a use brought, if it brought one. -/
def response? : Came → Option Response
  | .replied attempt => attempt.result.toOption
  | .streamed _ | .told _ => none

end Came

/-- Sends a request for a stream and takes its course. A stream that is closed in front of its first
piece is never asked for. -/
def streamAlong (c : Client) (messages : List Message) (g : Generation)
    (answer : Request.Arguments → Answer (List Value)) : Course → Attempt Streamed
  | .whole => c.stream messages g answer
  | .closed 0 => ⟨.ok ⟨[], none, false⟩, none⟩
  | .closed wanted@(_ + 1) =>
    let attempt := c.stream messages g answer
    ⟨attempt.result.map (·.upTo wanted), attempt.sent⟩
  | .broken arriving text =>
    let attempt := c.stream messages g fun sent => (answer sent).upTo arriving
    ⟨attempt.result.map fun s => { s with failure := s.failure.or (some (.callFailed text)) },
      attempt.sent⟩

/-- Uses a client once. -/
def use (c : Client) : Use → Came × Client
  | .generate messages g answer =>
    let (attempt, c) := c.generate messages g answer
    (.replied attempt, c)
  | .stream messages g answer course => (.streamed (c.streamAlong messages g answer course), c)
  | .reset =>
    let (usage, c) := c.resetUsage
    (.told usage, c)

/-- The client behind a row of uses. -/
def run (c : Client) (uses : List Use) : Client := uses.foldl (fun c u => (c.use u).2) c

/-- What a row of uses came to. -/
def history (c : Client) : List Use → List Came
  | [] => []
  | u :: uses => (c.use u).1 :: history (c.use u).2 uses

/-- The responses of a history since the last time that counting started over. -/
def sinceReset (history : List Came) : List Response :=
  (history.rtakeWhile (!·.isReset)).filterMap Came.response?

/-- Whether an answer to a request for a whole reply is read to the end, if there is an answer. -/
def Serves (c : Client) : Use → Prop
  | .generate messages g answer => ∀ sent document, c.request messages g false = .ok sent →
    answer sent = .answered document → ∃ r, (c.generate messages g answer).1.result = .ok r
  | .stream .. | .reset => True

/-- Whether all answers to a row of uses are read to the end. -/
def ServesAll (c : Client) : List Use → Prop
  | [] => True
  | u :: uses => c.Serves u ∧ ServesAll (c.use u).2 uses

/-! ## Rows of uses -/

/-- One more use is made behind the others. -/
theorem run_concat (c : Client) (uses : List Use) (u : Use) :
    c.run (uses ++ [u]) = ((c.run uses).use u).2 := by
  unfold run
  rw [List.foldl_append]
  rfl

/-- What it comes to stands behind what the others came to. -/
theorem history_concat (c : Client) (uses : List Use) (u : Use) :
    c.history (uses ++ [u]) = c.history uses ++ [((c.run uses).use u).1] := by
  induction uses generalizing c with
  | nil => rfl
  | cons first uses ih =>
    rw [List.cons_append, history, ih]
    rfl

/-- It is answered to the end if all are. -/
theorem ServesAll.of_concat {c : Client} {uses : List Use} {u : Use}
    (h : c.ServesAll (uses ++ [u])) : c.ServesAll uses ∧ (c.run uses).Serves u := by
  induction uses generalizing c with
  | nil => exact ⟨trivial, h.1⟩
  | cons first uses ih =>
    obtain ⟨hfirst, hrest⟩ := h
    exact ⟨⟨hfirst, (ih hrest).1⟩, (ih hrest).2⟩

/-- Behind a reset there are no responses yet. -/
theorem sinceReset_reset {history : List Came} {came : Came} (h : came.isReset = true) :
    sinceReset (history ++ [came]) = [] := by
  unfold sinceReset
  rw [List.rtakeWhile_concat_neg (!·.isReset) history came (by simp [h])]
  rfl

/-- Any other use adds its response, if it brought one. -/
theorem sinceReset_concat {history : List Came} {came : Came} (h : came.isReset = false) :
    sinceReset (history ++ [came]) = sinceReset history ++ came.response?.toList := by
  unfold sinceReset
  rw [List.rtakeWhile_concat_pos (!·.isReset) history came (by simp [h]), List.filterMap_append]
  cases hresponse : came.response? <;> simp [hresponse]

/-! ## One use -/

/-- A client has counted some responses: its usage is the sum of theirs, and they are as many as its
requests. -/
structure HasCounted (c : Client) (responses : List Response) : Prop where
  usage : c.usage = Usage.sumOf (responses.map Response.usage)
  requests : c.requests = responses.length

/-- One more response is counted by adding its usage. -/
theorem HasCounted.track {c : Client} {responses : List Response} (h : c.HasCounted responses)
    {r : Response} {u : Usage} (hr : r.usage = u) : (c.track u).HasCounted (responses ++ [r]) where
  usage := by
    rw [List.map_append, List.map_cons, List.map_nil, Usage.sumOf_concat, hr, ← h.usage]
    rfl
  requests := by
    rw [List.length_append, ← h.requests]
    rfl

/-- A client that is used counts the responses of its history since the last reset, if it did so
before the use and an answer is read to the end. -/
theorem HasCounted.use {c : Client} {history : List Came} (h : c.HasCounted (sinceReset history))
    {u : Use} (hserves : c.Serves u) :
    (c.use u).2.HasCounted (sinceReset (history ++ [(c.use u).1])) := by
  cases u with
  | stream messages g answer course =>
    rw [sinceReset_concat rfl]
    show c.HasCounted (sinceReset history ++ [])
    rwa [List.append_nil]
  | reset =>
    rw [sinceReset_reset rfl]
    exact ⟨rfl, rfl⟩
  | generate messages g answer =>
    rw [sinceReset_concat rfl]
    show (c.generate messages g answer).2.HasCounted
      (sinceReset history ++ (c.generate messages g answer).1.result.toOption.toList)
    have hgenerated := generated c messages g answer
    change ∀ sent document, _ → _ → ∃ r, (c.generate messages g answer).1.result = .ok r at hserves
    generalize c.generate messages g answer = outcome at hgenerated hserves ⊢
    cases hgenerated with
    | unshaped | failed | unread =>
      show c.HasCounted (sinceReset history ++ [])
      rwa [List.append_nil]
    | counted hrequest hanswer hread hresponse =>
      obtain ⟨r, rfl⟩ := hserves _ _ hrequest hanswer
      exact h.track (hresponse r rfl)

/-- The usage that an answer of Anthropic or Google states has the sum of its parts as its total. -/
theorem total_of_read {provider : Provider} {document : Value} {reading : Reading}
    (hprovider : provider ≠ .openai) (h : read provider document = .ok reading) :
    reading.usage.total = reading.usage.prompt + reading.usage.completion := by
  -- What is made of two counts has their sum as its total.
  have hparts {prompt completion : Except Failure Value} {usage : Usage}
      (h : (do
        let prompt ← prompt
        let completion ← completion
        return Usage.ofParts (← Document.count prompt) (← Document.count completion)) = .ok usage) :
      usage.total = usage.prompt + usage.completion := by
    obtain ⟨prompt, -, h⟩ := exists_of_bind_eq_ok h
    obtain ⟨completion, -, h⟩ := exists_of_bind_eq_ok h
    obtain ⟨m, -, h⟩ := exists_of_bind_eq_ok h
    obtain ⟨n, -, h⟩ := exists_of_bind_eq_ok h
    obtain rfl := Except.ok.inj h
    rfl
  cases provider with
  | openai => exact absurd rfl hprovider
  | anthropic =>
    obtain ⟨listed, -, h⟩ := exists_of_bind_eq_ok h
    obtain ⟨blocks, -, h⟩ := exists_of_bind_eq_ok h
    obtain ⟨content, -, h⟩ := exists_of_bind_eq_ok h
    obtain ⟨usage, husage, h⟩ := exists_of_bind_eq_ok h
    obtain rfl := Except.ok.inj h
    exact hparts husage
  | google =>
    obtain ⟨candidates, -, h⟩ := exists_of_bind_eq_ok h
    obtain ⟨content, -, h⟩ := exists_of_bind_eq_ok h
    obtain ⟨usage, husage, h⟩ := exists_of_bind_eq_ok h
    obtain rfl := Except.ok.inj h
    unfold googleUsage at husage
    split at husage
    · obtain rfl := Except.ok.inj husage
      rfl
    · exact hparts husage

/-- A client stays one for its provider, and the responses that it brings have such usages unless
the provider is OpenAI. -/
theorem provider_use (c : Client) (u : Use) : (c.use u).2.provider = c.provider ∧
    ∀ r, (c.use u).1.response? = some r → c.provider ≠ .openai →
      r.usage.total = r.usage.prompt + r.usage.completion := by
  cases u with
  | stream messages g answer course =>
    refine ⟨rfl, fun r hr => ?_⟩
    cases hr
  | reset =>
    refine ⟨rfl, fun r hr => ?_⟩
    cases hr
  | generate messages g answer =>
    refine ⟨(c.identity_generate messages g answer).1, ?_⟩
    change ∀ r, (c.generate messages g answer).1.result.toOption = some r → _
    have hgenerated := generated c messages g answer
    generalize c.generate messages g answer = outcome at hgenerated ⊢
    intro r hr hprovider
    cases hgenerated with
    | unshaped | failed | unread => cases hr
    | @counted _ _ reading response _ _ hread hresponse =>
      cases response with
      | error why => cases hr
      | ok last =>
        obtain rfl := Option.some.inj hr
        rw [hresponse last rfl]
        exact total_of_read hprovider hread

/-- An answer is read to the end if its usage can be read, the total of which can be noted, and the
rest behind it. -/
theorem serves_generate {c : Client} {messages : List Message} {g : Generation}
    {answer : Request.Arguments → Answer Value}
    (h : ∀ sent document, answer sent = .answered document → ∃ reading last,
      read c.provider document = .ok reading ∧ reading.usage.total.toValue.isWritable = true ∧
      reading.rest = .ok last) : c.Serves (.generate messages g answer) := by
  intro sent document hrequest hanswer
  obtain ⟨reading, last, hread, htotal, hrest⟩ := h sent document hanswer
  unfold generate
  simp only [hrequest, hanswer, hread, htotal, if_true, hrest]
  exact ⟨_, rfl⟩

/-! ## Histories -/

/-- A client that was made is one for the provider, and has counted nothing. -/
theorem hasCounted_make {sdk : Sdk} {context : Context} {provider : Provider} {es : Entries}
    {c : Client} (h : make sdk context provider es = .ok c) :
    c.provider = provider ∧ c.HasCounted [] := by
  unfold make at h
  split at h
  · cases h
  · dsimp only at h
    split at h
    · cases h
    · obtain ⟨address, -, h⟩ := exists_of_bind_eq_ok h
      split at h
      · cases h
      · obtain rfl := Except.ok.inj h
        exact ⟨rfl, rfl, rfl⟩

/-- Behind any uses, a client that had counted nothing has counted the responses of the history
since the last reset. -/
theorem HasCounted.run {c : Client} (h : c.HasCounted []) {uses : List Use}
    (hserves : c.ServesAll uses) : (c.run uses).HasCounted (sinceReset (c.history uses)) := by
  induction uses using List.reverseRecOn with
  | nil => exact h
  | append_singleton uses u ih =>
    obtain ⟨hbefore, hlast⟩ := hserves.of_concat
    rw [run_concat, history_concat]
    exact (ih hbefore).use hlast

/-- Each reset of a history tells the usage of the responses between it and the one before. -/
theorem told_of_history {c : Client} (h : c.HasCounted []) {uses : List Use}
    (hserves : c.ServesAll uses) {before after : List Came} {usage : Usage}
    (hhistory : c.history uses = before ++ .told usage :: after) :
    usage = Usage.sumOf ((sinceReset before).map Response.usage) := by
  induction uses using List.reverseRecOn generalizing after with
  | nil => simp [history] at hhistory
  | append_singleton uses u ih =>
    obtain ⟨hbefore, -⟩ := hserves.of_concat
    rw [history_concat] at hhistory
    rcases List.eq_nil_or_concat after with rfl | ⟨rest, last, rfl⟩
    · -- The reset is the last use, so that the client behind the others tells what it has counted.
      obtain ⟨rfl, hlast⟩ := List.append_inj' hhistory rfl
      have hcounted := (h.run hbefore).usage
      cases u with
      | generate | stream => cases List.cons.inj hlast |>.1
      | reset =>
        obtain rfl := Came.told.inj (List.cons.inj hlast).1
        exact hcounted
    · rw [List.concat_eq_append, ← List.cons_append, ← List.append_assoc] at hhistory
      exact ih hbefore (List.append_inj' hhistory rfl).1

/-- A client stays one for its provider in a history, and each response in it has the sum of its
parts as its total unless the provider is OpenAI. -/
theorem provider_run (c : Client) (uses : List Use) : (c.run uses).provider = c.provider ∧
    (c.provider ≠ .openai → ∀ r ∈ (c.history uses).filterMap Came.response?,
      r.usage.total = r.usage.prompt + r.usage.completion) := by
  induction uses using List.reverseRecOn with
  | nil => exact ⟨rfl, fun _ => nofun⟩
  | append_singleton uses u ih =>
    obtain ⟨hprovider, hresponses⟩ := ih
    obtain ⟨hsame, hresponse⟩ := (c.run uses).provider_use u
    rw [run_concat, history_concat]
    refine ⟨hsame.trans hprovider, fun hopenai r hr => ?_⟩
    rw [List.filterMap_append, List.mem_append] at hr
    rcases hr with hr | hr
    · exact hresponses hopenai r hr
    · obtain ⟨came, hcame, hr⟩ := List.mem_filterMap.mp hr
      obtain rfl := List.mem_singleton.mp hcame
      exact hresponse r hr (hprovider ▸ hopenai)

/-- What was responded since the last reset is part of the whole history. -/
theorem mem_of_mem_sinceReset {history : List Came} {r : Response} (h : r ∈ sinceReset history) :
    r ∈ history.filterMap Came.response? :=
  ((List.rtakeWhile_suffix _ _).sublist.filterMap _).mem h

/-- Behind any uses of a client that was just made, its usage is the sum of that of the responses
since the last reset, and its requests are as many. Each reset on the way has told such a sum, and
another one tells the usage at hand and starts over. Usages of integers add up to the integer sums,
and for Anthropic and Google the total of each response, and then that of the sum, is the sum of its
parts. -/
theorem usage_accounted {sdk : Sdk} {context : Context} {provider : Provider} {es : Entries}
    {c : Client} (hmade : make sdk context provider es = .ok c) {uses : List Use}
    (hserves : c.ServesAll uses) :
    let later := c.run uses
    let responses := sinceReset (c.history uses)
    (later.usage = Usage.sumOf (responses.map Response.usage) ∧
      later.requests = responses.length) ∧
    (∀ before usage after, c.history uses = before ++ .told usage :: after →
      usage = Usage.sumOf ((sinceReset before).map Response.usage)) ∧
    later.use .reset = (.told later.usage, { later with usage := 0, requests := 0 }) ∧
    ((∀ r ∈ responses, r.usage.IsInteger) → later.usage =
      ⟨.whole (Count.integerSum (responses.map (·.usage.prompt))),
        .whole (Count.integerSum (responses.map (·.usage.completion))),
        .whole (Count.integerSum (responses.map (·.usage.total)))⟩) ∧
    (provider ≠ .openai →
      (∀ r ∈ (c.history uses).filterMap Came.response?,
        r.usage.total = r.usage.prompt + r.usage.completion) ∧
      ((∀ r ∈ responses, r.usage.IsInteger) →
        later.usage.total = later.usage.prompt + later.usage.completion)) := by
  intro later responses
  obtain ⟨hprovider, hnothing⟩ := hasCounted_make hmade
  have hcounted : later.HasCounted responses := hnothing.run hserves
  have hintegers (h : ∀ r ∈ responses, r.usage.IsInteger) :
      ∀ u ∈ responses.map Response.usage, u.IsInteger := List.forall_mem_map.mpr h
  refine ⟨⟨hcounted.usage, hcounted.requests⟩, fun _ _ _ => told_of_history hnothing hserves, rfl,
    fun h => ?_, fun hopenai => ?_⟩
  · rw [hcounted.usage, Usage.sumOf_eq_whole (hintegers h)]
    simp only [List.map_map]
    rfl
  · have hparts := (c.provider_run uses).2 (hprovider ▸ hopenai)
    refine ⟨hparts, fun h => ?_⟩
    rw [hcounted.usage]
    exact Usage.total_sumOf (hintegers h)
      (List.forall_mem_map.mpr fun r hr => hparts r (mem_of_mem_sinceReset hr))

/-- A reply of Anthropic to one request that states the usage of two numbers of tokens. -/
def repliedUsing (input output : Int) : Use :=
  .generate [.user "Hi"] .unset fun _ => .answered (.map [(.text "content", .list []),
    (.text "usage",
      .map [(.text "input_tokens", .int input), (.text "output_tokens", .int output)]),
    (.text "stop_reason", .text "end_turn"), (.text "id", .text "m1"), (.text "model", .text "m")])

/-- Only the reply behind the reset counts here: not the one before it, not the stream, which is
closed early, and not the request that fails. -/
theorem usage_accounted_behind_reset :
    let made := make (.usual default) (.ofEnvironment []) .anthropic
      [(.text "api_key", .text "k"), (.text "model", .text "m")]
    let c : Client :=
      ⟨.anthropic, .text "m", .text "k", .int 4096, "", (Sdk.usual default).extras, 0, 0⟩
    let uses := [repliedUsing 10 5,
      .stream [.user "Hi"] .unset (fun _ => .answered [.text "Hel", .text "lo"])
        (.closed 1),
      .generate [.user "Hi"] .unset (fun _ => .failed "overloaded"), .reset, repliedUsing 3 4]
    made = .ok c ∧ c.ServesAll uses ∧ (c.run uses).usage = ⟨.whole 3, .whole 4, .whole 7⟩ ∧
      (c.run uses).requests = 1 := by
  intro made c uses
  have hmade : made = .ok c := rfl
  have hserves : c.ServesAll uses := by
    refine ⟨serves_generate fun _ _ h => ?_, trivial, nofun, trivial,
      serves_generate fun _ _ h => ?_, trivial⟩
    · obtain rfl := Answer.answered.inj h
      exact ⟨_, _, rfl, by decide +kernel, rfl⟩
    · obtain rfl := Answer.answered.inj h
      exact ⟨_, _, rfl, by decide +kernel, rfl⟩
  obtain ⟨⟨husage, hrequests⟩, -⟩ := usage_accounted hmade hserves
  refine ⟨hmade, hserves, husage.trans ?_, hrequests.trans ?_⟩
  · decide +kernel
  · decide +kernel

end Client

end PromptContract
