import AutoGrocery.Ordering.Handlers

/-!
The protected client routes of `internal/handlers/router.go`: `AuthMiddleware`
of `internal/auth/middleware.go` in front of preview, confirm and cancel.

`ValidateToken` checks the signature and the expiry of a JWT with a library, so
it is a parameter: the claims of a valid token, or `none` for an error.
-/

namespace AutoGrocery

/-- `auth.Claims`. The expiry is a NumericDate, in whole seconds. -/
structure Claims where
  userID : Int
  role : String
  tokenType : String
  expiresAt : Nat
  issuer : String
  deriving DecidableEq

/-- The routes below `/api/client/order`, with their bodies. -/
inductive ClientRequest where
  | preview (body : Option (List CartItem)) (orderUUID : OrderID)
  | confirm (body : Option OrderID)
  | cancel (orderID : OrderID)

/-- The handler of a route. -/
def ClientRequest.handle : ClientRequest → Option Int → OrderingProg
  | .preview body orderUUID, userID => previewOrder userID body orderUUID
  | .confirm body, userID => confirmOrder userID body
  | .cancel orderID, userID => cancelOrder userID orderID

/-- The order a request is about, if its body names one. -/
def ClientRequest.orderID : ClientRequest → Option OrderID
  | .preview _ orderUUID => some orderUUID
  | .confirm body => body
  | .cancel orderID => some orderID

section

variable (validateToken : String → Option Claims) (authHeader : String)

/-- The checks of `AuthMiddleware`: the text of its refusal, or the claims of the
token, whose user id and role go into the context. -/
def acceptedClaims : Except String Claims :=
  if authHeader = "" then .error "Missing Authorization Header"
  else
    match authHeader.toList.splitOn ' ' with
    | [scheme, token] =>
        if String.ofList scheme ≠ "Bearer" then .error "Invalid Header Format"
        else
          match validateToken (String.ofList token) with
          | none => .error "Invalid or Expired Token"
          | some claims =>
              if claims.tokenType ≠ "ACCESS" then
                .error "Invalid Token Type: Access Token required"
              else .ok claims
    | _ => .error "Invalid Header Format"

/-- The user id of an accepted request, all that the handlers read. -/
def authenticate : Except String Int :=
  (acceptedClaims validateToken authHeader).map Claims.userID

/-- `AuthMiddleware`. The user id of the claims goes into the context. -/
def authMiddleware (next : Option Int → OrderingProg) : OrderingProg :=
  match authenticate validateToken authHeader with
  | .error message => .ret (httpError message 401)
  | .ok userID => next (some userID)

/-- A request on its way through the middleware to its handler. -/
def clientRoute (request : ClientRequest) : OrderingProg :=
  authMiddleware validateToken authHeader request.handle

end

end AutoGrocery
