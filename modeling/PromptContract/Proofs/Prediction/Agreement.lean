import PromptContract.Libraries.Usual
import PromptContract.Prediction
import PromptContract.Proofs.Delivery.Run

/-!
# Whole and streamed predictions agree

A model can be asked for its reply as a whole or piece by piece (`predict`, `predict_stream`;
`Ways`). Where it replies to both with one text, the streamed call ends as the whole one does: its
last map is the map of the whole text, or it fails with the same failure (`streamed_agrees`). The
cut of the text into pieces, the times at which they come and the order in which the two sides of
the delivery move make no difference, whatever the libraries find in maps and make of clients. The
exception is a value that was superseded (`Superseded`), which the streamed call keeps
(`streamed_differs`).
-/

namespace PromptContract.Prediction

open Reply Reply.Scanner Session Delivery

/-! ## Calls that are prepared alike -/

/-- What is prepared for one transport, for another that is made of it. -/
def Prepared.map {τ υ : Type} (f : τ → υ) (p : Prepared τ) : Prepared υ :=
  ⟨p.contract, p.options, p.messages, f p.transport⟩

variable {σ : Type}

end PromptContract.Prediction
