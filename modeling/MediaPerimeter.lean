import MediaPerimeter.Http.Gateway
import MediaPerimeter.Settings.Reader
import MediaPerimeter.Settings.Shown
import MediaPerimeter.Stream.Progress
import MediaPerimeter.Stream.Transcoder
import MediaPerimeter.Proofs.Net.PublicDials
import MediaPerimeter.Proofs.Stream.FixedPoint
import MediaPerimeter.Proofs.Stream.PlainHost
import MediaPerimeter.Proofs.Stream.StrictReading
import MediaPerimeter.Proofs.Net.RedirectLimit
import MediaPerimeter.Proofs.Http.Protected
import MediaPerimeter.Proofs.Text.Utf8
import MediaPerimeter.Proofs.Files.Walk
import MediaPerimeter.Proofs.Files.Served
import MediaPerimeter.Proofs.Http.Files
import MediaPerimeter.Proofs.Text.Base64Url
import MediaPerimeter.Proofs.Json.Grammar
import MediaPerimeter.Proofs.Json.Strings
import MediaPerimeter.Proofs.Json.Numbers
import MediaPerimeter.Proofs.Json.Skip
import MediaPerimeter.Proofs.Json.Record
import MediaPerimeter.Proofs.Token.Forms
import MediaPerimeter.Proofs.Token.Pinned
import MediaPerimeter.Proofs.Credential
import MediaPerimeter.Proofs.Http.Hidden
import MediaPerimeter.Proofs.Json.Written
import MediaPerimeter.Proofs.Http.Posted
import MediaPerimeter.Proofs.Http.Callbacks
import MediaPerimeter.Proofs.Token.Issued
import MediaPerimeter.Proofs.Http.Login
import MediaPerimeter.Proofs.Files.Retraction
import MediaPerimeter.Proofs.Stream.Arguments
import MediaPerimeter.Proofs.Http.Unseen
import MediaPerimeter.Proofs.Http.Channels
import MediaPerimeter.Proofs.Http.TokenVerdict
import MediaPerimeter.Proofs.Address.Canonical
import MediaPerimeter.Proofs.Callback.Verdict
import MediaPerimeter.Proofs.Http.Concealed
import MediaPerimeter.Proofs.Net.Blocked
import MediaPerimeter.Proofs.Http.Blocked
import MediaPerimeter.Proofs.Text.Spelling
import MediaPerimeter.Proofs.Stream.Contact
import MediaPerimeter.Proofs.Stream.Carried
import MediaPerimeter.Proofs.Time.Years
import MediaPerimeter.Proofs.Token.Lifetime
import MediaPerimeter.Proofs.Http.Targets
import MediaPerimeter.Proofs.Files.Dots
import MediaPerimeter.Proofs.Files.Located
import MediaPerimeter.Proofs.Url.HostNames
import MediaPerimeter.Proofs.Net.Exchanges
import MediaPerimeter.Proofs.Callback.Gates
import MediaPerimeter.Proofs.Callback.Delivery
import MediaPerimeter.Proofs.Address.Shown
import MediaPerimeter.Proofs.Address.Blocks
import MediaPerimeter.Proofs.Stream.StatusLine
import MediaPerimeter.Proofs.Settings.Accepted
import MediaPerimeter.Proofs.Http.Details
