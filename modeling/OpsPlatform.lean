import OpsPlatform.Platform.Hidden
import OpsPlatform.Workitems.Permissions
import OpsPlatform.Workitems.Coherence
import OpsPlatform.Workitems.Records
import OpsPlatform.Workitems.LostUpdate
import OpsPlatform.Workitems.Notices
import OpsPlatform.Workitems.SingleWinner
import OpsPlatform.Workitems.AllOrNothing
import OpsPlatform.Auth.RateLimit
import OpsPlatform.Auth.Probing
import OpsPlatform.Auth.Passwords
import OpsPlatform.Auth.Concurrent
import OpsPlatform.Http.GoogleAccounts
import OpsPlatform.Auth.Interchange
import OpsPlatform.Workitems.Isolation
import OpsPlatform.Workitems.Tables
import OpsPlatform.Teams.Concurrent
import OpsPlatform.Http.AdminAccounts
import OpsPlatform.Http.Evidence
import OpsPlatform.Http.Inbox
import OpsPlatform.Http.ReadPaths
import OpsPlatform.Db.AppliedOnce
import OpsPlatform.Workitems.WellFormed
import OpsPlatform.Teams.Faults
import OpsPlatform.Teams.Supervision
import OpsPlatform.Platform.Handoff
import OpsPlatform.Http.Provisioning
import OpsPlatform.Notifications.Order
import OpsPlatform.Attachments.Storage
import OpsPlatform.Auth.Token
import OpsPlatform.Server.Lifetime
import OpsPlatform.Teams.OneTeam
import OpsPlatform.Teams.Interchange
