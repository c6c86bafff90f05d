import PromptContract.Provider.Sdk
import PromptContract.Validation.Basic

/-!
# What is known of libraries

A call needs libraries of others: to validate value maps, and to reach a model where no transport is
given. What it has to know of them is a parameter. `Libraries.usual`, behind all other modules of
`Libraries`, follows the ones in use as far as it goes.
-/

namespace PromptContract

/-- What is known of the libraries that a call needs. -/
structure Libraries where
  checker : Validation.Checker
  sdk : Sdk

end PromptContract
