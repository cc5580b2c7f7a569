/-!
# Tokens by platform

Tokens gathered in buckets, one for each platform, with no token twice in a bucket. Buckets are
kept in the order in which their platforms first came up; they are read with the bucket for every
platform first.
-/
namespace ProjectScribe.Mapping

/-- The name of the bucket whose tokens hold on every platform. -/
def everyPlatform : String := "ALL"

/-- Buckets of tokens, by platform. -/
structure PlatformTokens where
  buckets : List (String × List String) := []
deriving DecidableEq, Repr

namespace PlatformTokens

/-- No tokens at all. -/
def empty : PlatformTokens := ⟨[]⟩

/-- A token at the end of a list that does not hold it yet. -/
def addOnce (token : String) (tokens : List String) : List String :=
  if token ∈ tokens then tokens else tokens ++ [token]

/-- A token added to the bucket of a platform, which is opened at the end if there is none. -/
def pushTo (platform token : String) : List (String × List String) → List (String × List String)
  | [] => [(platform, [token])]
  | (name, tokens) :: rest =>
    if name = platform then (name, addOnce token tokens) :: rest
    else (name, tokens) :: pushTo platform token rest

/-- Add a token to the bucket of a platform, unless it is there already. -/
def push (tokens : PlatformTokens) (platform token : String) : PlatformTokens :=
  ⟨pushTo platform token tokens.buckets⟩

/-- The tokens of one platform, if it has a bucket. -/
def get? (tokens : PlatformTokens) (platform : String) : Option (List String) :=
  (tokens.buckets.find? (·.1 = platform)).map (·.2)

/-- The buckets that hold tokens, the one for every platform first and the others in order. -/
def toList (tokens : PlatformTokens) : List (String × List String) :=
  (tokens.buckets.filter (·.1 = everyPlatform) ++ tokens.buckets.filter (·.1 ≠ everyPlatform)).filter
    fun bucket => !bucket.2.isEmpty

/-- Whether no bucket holds a token. -/
def isEmpty (tokens : PlatformTokens) : Bool := tokens.buckets.all (·.2.isEmpty)

/-- Several tokens pushed in order, each with its platform. -/
def pushAll (tokens : PlatformTokens) (pairs : List (String × String)) : PlatformTokens :=
  pairs.foldl (fun gathered (platform, token) => gathered.push platform token) tokens

theorem find?_pushTo (platform token other : String) (buckets : List (String × List String)) :
    ((pushTo platform token buckets).find? (·.1 = other)).map (·.2) =
      if other = platform then
        some (addOnce token (((buckets.find? (·.1 = platform)).map (·.2)).getD []))
      else (buckets.find? (·.1 = other)).map (·.2) := by
  induction buckets with
  | nil => by_cases same : other = platform <;> simp [pushTo, addOnce, same, eq_comm]
  | cons bucket rest inductionHypothesis =>
    obtain ⟨name, tokens⟩ := bucket
    by_cases here : name = platform
    · subst here
      by_cases same : other = name
      · simp [pushTo, same]
      · simp [pushTo, same, Ne.symm same]
    · by_cases hit : name = other
      · subst hit
        simp [pushTo, here]
      · simpa [pushTo, here, hit] using inductionHypothesis

/-- A token that is pushed joins the bucket of its platform and no other. -/
theorem get?_push (tokens : PlatformTokens) (platform token other : String) :
    (tokens.push platform token).get? other =
      if other = platform then some (addOnce token ((tokens.get? platform).getD []))
      else tokens.get? other :=
  find?_pushTo platform token other tokens.buckets

example : ((empty.push "UNIX" "m").push "ALL" "c").toList = [("ALL", ["c"]), ("UNIX", ["m"])] := by
  decide
example : ((empty.push "UNIX" "m").push "UNIX" "m").get? "UNIX" = some ["m"] := by decide

end PlatformTokens

end ProjectScribe.Mapping
