import RcsMiddleware.Support.Programs
import RcsMiddleware.Support.Interleaving
import RcsMiddleware.Support.JsonText
import RcsMiddleware.Support.AbsorbingRegister
import RcsMiddleware.Source.Exceptions
import RcsMiddleware.Source.Tables
import RcsMiddleware.Source.World
import RcsMiddleware.Source.RcsSubmitService
import RcsMiddleware.Source.Worker
import RcsMiddleware.Source.WebhookService
import RcsMiddleware.Source.RcsClient
import RcsMiddleware.Submit.Concurrent
import RcsMiddleware.Submit.Retries
import RcsMiddleware.Submit.Histories
import RcsMiddleware.Submit.Entries
import RcsMiddleware.Submit.Protocol
import RcsMiddleware.Feedback.Terminal
import RcsMiddleware.Feedback.Creation
import RcsMiddleware.Webhook.Concurrent
import RcsMiddleware.Webhook.Forgeries
import RcsMiddleware.Webhook.Endpoint
import RcsMiddleware.Config.Preview
import RcsMiddleware.Config.Cache
import RcsMiddleware.Config.Updates
import RcsMiddleware.Client.Outcomes
import RcsMiddleware.Feedback.Redelivery
import RcsMiddleware.Submit.Paths
import RcsMiddleware.Redis.Families
import RcsMiddleware.Webhook.DedupeKeys
import RcsMiddleware.Client.Classification
import RcsMiddleware.Client.Attempts
import RcsMiddleware.Submit.Responses
import RcsMiddleware.Submit.Replays
import RcsMiddleware.Feedback.Attempts
import RcsMiddleware.Source.RobotService
import RcsMiddleware.Feedback.RobotList
import RcsMiddleware.Webhook.Suppression
import RcsMiddleware.Source.Engine
import RcsMiddleware.Feedback.Connections
import RcsMiddleware.Submit.Fingerprints
import RcsMiddleware.Submit.Spellings
import RcsMiddleware.Tables.Columns
import RcsMiddleware.Support.Rfc3986
import RcsMiddleware.Client.SignedPaths
import RcsMiddleware.Support.Secrets
import RcsMiddleware.Source.Logging
import RcsMiddleware.Client.Logs
import RcsMiddleware.Support.Descending
import RcsMiddleware.Support.Like
import RcsMiddleware.Source.Listings
import RcsMiddleware.Dashboard.Pages
import RcsMiddleware.Support.IsoOrder
import RcsMiddleware.Source.Alerts
import RcsMiddleware.Dashboard.Alerts
import RcsMiddleware.Support.Repeats
import RcsMiddleware.Source.StatsService
import RcsMiddleware.Dashboard.Robots
import RcsMiddleware.Support.Framing
import RcsMiddleware.Client.Canonical
import RcsMiddleware.Support.HtmlTokens
import RcsMiddleware.Support.HtmlTags
import RcsMiddleware.Source.StaticJs
import RcsMiddleware.Dashboard.Templates
import RcsMiddleware.Dashboard.Markup
import RcsMiddleware.System.Jobs
import RcsMiddleware.System.Provenance
import RcsMiddleware.System.Trust
import RcsMiddleware.Support.Inlining
import RcsMiddleware.System.Stack
import RcsMiddleware.Support.Typestate
import RcsMiddleware.System.Progress
import RcsMiddleware.System.Ledger
import RcsMiddleware.System.Audit
import RcsMiddleware.Source.Lifespan
import RcsMiddleware.System.Startup
import RcsMiddleware.Support.JsonLoads
import RcsMiddleware.Support.Representation
import RcsMiddleware.Source.Texts
import RcsMiddleware.Webhook.Messages
import RcsMiddleware.System.Texts
import RcsMiddleware.Support.Paths
import RcsMiddleware.System.Outbound
