import Msal.Json.Stringify
import Msal.Json.Parse
import Msal.Json.RoundTrip
import Msal.KeyStore.Operations
import Msal.KeyStore.Interleaving
import Msal.KeyStore.SignedToken
import Msal.KeyStore.Sequential
import Msal.KeyStore.Linearization
import Msal.Throttling.Gate
import Msal.Throttling.Concurrent
import Msal.NativeAuth.SignIn
