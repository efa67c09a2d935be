import ApiTypings.Url.Error

/-!
# Why a fetch fails

The details of transport and decoding failures are the business of the parts
below; their place in a message is held by `<detail>`.
-/

namespace ApiTypings

inductive FetchError where
  /-- The exchange failed, with the status of the answer when that was the reason. -/
  | http (status : Option Nat)
  /-- The server answered with an error code. -/
  | api (code : Int) (message : String)
  /-- The payload has the wrong shape. -/
  | decode
  | missing (what : String)
  | invalidUrl (error : UrlError)
  deriving DecidableEq, Repr

def FetchError.message : FetchError → String
  | .http _ => "HTTP request failed: <detail>"
  | .api code message => "YAPI error " ++ toString code ++ ": " ++ message
  | .decode => "Unexpected YAPI payload: <detail>"
  | .missing what => "YAPI response is missing " ++ what
  | .invalidUrl error => "Invalid YAPI URL: " ++ error.message

end ApiTypings
