import GdsSdk.Messages.RoundTrip
import GdsSdk.Messages.QueryOptions
import GdsSdk.Messages.AckPayload
import GdsSdk.Messages.Truncation
import GdsSdk.Messages.Paging
import GdsSdk.Messages.Framing
import GdsSdk.Messages.Distinct
import GdsSdk.Messages.Forwarding
import GdsSdk.Transition.Pool
import GdsSdk.Transition.History
import GdsSdk.Websocket.Sends
import GdsSdk.Websocket.LoginFinal
import GdsSdk.Websocket.ClosedClient
import GdsSdk.Websocket.Release
import GdsSdk.Websocket.LoginProgress
import GdsSdk.Websocket.LoginTimer
import GdsSdk.Websocket.Opening
import GdsSdk.Websocket.Credentials
import GdsSdk.Websocket.Received
import GdsSdk.Websocket.AsyncGDSClientBuilder
import GdsSdk.Websocket.Outcome
import GdsSdk.Demo.MessageIds
import GdsSdk.Demo.Acknowledgements
import GdsSdk.Demo.SessionFinishing
import GdsSdk.Demo.SampleEvent
import GdsSdk.Demo.Create
