import ParDiff.Accounts.Addresses
import ParDiff.Accounts.Balance
import ParDiff.Accounts.ClientIps
import ParDiff.Accounts.Credentials
import ParDiff.Accounts.Ledger
import ParDiff.Accounts.Pages
import ParDiff.Accounts.TopUps
import ParDiff.Console.EditUser
import ParDiff.Console.Effects
import ParDiff.Console.Operations
import ParDiff.Console.Sessions
import ParDiff.Console.Site
import ParDiff.Console.Unauthenticated
import ParDiff.Expiry.Expire
import ParDiff.Expiry.Recharge
import ParDiff.Expiry.Validity
import ParDiff.Lib.BlockCipher
import ParDiff.Lib.BoundNumber
import ParDiff.Lib.Calendar
import ParDiff.Lib.Double
import ParDiff.Lib.Interleave
import ParDiff.Lib.Lines
import ParDiff.Lib.Numeral
import ParDiff.Lib.Php
import ParDiff.Lib.PhpNumber
import ParDiff.Lib.Run
import ParDiff.Lib.Script
import ParDiff.Lib.Shell
import ParDiff.Lib.SqlInsert
import ParDiff.Lib.SqlText
import ParDiff.Lib.Table
import ParDiff.Lib.Text
import ParDiff.Lib.Transaction
import ParDiff.Mail.Command
import ParDiff.OpenVpn.Apart
import ParDiff.OpenVpn.Billing
import ParDiff.OpenVpn.Executions
import ParDiff.OpenVpn.Kill
import ParDiff.OpenVpn.LargeCounters
import ParDiff.OpenVpn.LastTraffic
import ParDiff.OpenVpn.LiveSessions
import ParDiff.OpenVpn.Mirror
import ParDiff.OpenVpn.Overlap
import ParDiff.OpenVpn.Plugin
import ParDiff.OpenVpn.Query
import ParDiff.OpenVpn.Refresh
import ParDiff.OpenVpn.Run
import ParDiff.OpenVpn.Server
import ParDiff.OpenVpn.Session
import ParDiff.OpenVpn.Status
import ParDiff.OpenVpn.StatusRead
import ParDiff.Payment.Acknowledged
import ParDiff.Payment.CreditedOnce
import ParDiff.Payment.Login
import ParDiff.Payment.NewOrder
import ParDiff.Payment.OrderPrice
import ParDiff.Payment.OrderText
import ParDiff.Payment.Orders
import ParDiff.Payment.Tariff
import ParDiff.Payment.Transactions
import ParDiff.Ppp.Charge
import ParDiff.Ppp.History
import ParDiff.Ppp.Host
import ParDiff.Ppp.Lifecycle
import ParDiff.Ppp.Samples
import ParDiff.Ppp.Scripts
import ParDiff.PppSql.Exclusive
import ParDiff.PppSql.Logins
import ParDiff.PppSql.Password
import ParDiff.PppSql.Plugin
import ParDiff.PppSql.TwiceOnline
import ParDiff.Quota
import ParDiff.Schema
import ParDiff.Tickets.View
import ParDiff.Vouchers.AllOrNothing
import ParDiff.Vouchers.AtMostOnce
import ParDiff.Vouchers.CardCheck
import ParDiff.Vouchers.CouponCredit
import ParDiff.Vouchers.Generate
import ParDiff.Vouchers.PrintedCard
import ParDiff.Vouchers.Validate
